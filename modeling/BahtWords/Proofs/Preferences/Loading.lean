import BahtWords.Proofs.Preferences.Precedence

/-!
# What loading gives each field

The fields of preferences are filled independently of each other, each from what it is given, which
has to fit it.  Nothing else can go wrong once the sources are read.

* `Held.Fits`: what a field can take.
* `Preferences.FilledFrom`: the preferences that come of what each field is given.
* `Preferences.winner`: what the last source that has a field gives it.
* `Preferences.last_source_wins`: loading fills each field from its winner, and fails where a winner
  does not fit its field.
-/

namespace BahtWords

open Target (Simple)

/-! ### Values that fit -/

/-- The kind of value that a field takes. -/
def Field.wants : Field → Kind
  | .useUnit | .formal => .boolean
  | _ => .text

namespace Held

/-- Whether a field can take what it is given: any scalar, but for a boolean no text other than the
words for yes and no, in letters of either case. -/
def Fits (f : Field) : Held → Prop
  | scalar (.text t) _ => f.wants = .boolean → t.lower ∈ yesTexts ∨ t.lower ∈ noTexts
  | scalar _ _ => True
  | list _ | table => False

instance (f : Field) : (h : Held) → Decidable (h.Fits f)
  | scalar (.text t) _ =>
    inferInstanceAs (Decidable (f.wants = .boolean → t.lower ∈ yesTexts ∨ t.lower ∈ noTexts))
  | scalar (.integer _) _ | scalar (.floating _) _ | scalar (.boolean _) _ => .isTrue trivial
  | list _ | table => .isFalse id

theorem exists_text_iff {f : Field} (hf : f.wants = .text) {h : Held} :
    (∃ t, h.text f = .ok t) ↔ h.Fits f := by
  cases h with
  | scalar v origin =>
      cases v with
      | text t => exact iff_of_true ⟨t, rfl⟩ fun hb => nomatch hf.symm.trans hb
      | integer | floating | boolean => exact iff_of_true ⟨_, rfl⟩ trivial
  | list | table => exact iff_of_false nofun id

theorem exists_boolean_iff {f : Field} (hf : f.wants = .boolean) {h : Held} :
    (∃ b, h.boolean f = .ok b) ↔ h.Fits f := by
  cases h with
  | scalar v origin =>
      cases v with
      | text t =>
          simp only [boolean, Fits, hf, forall_const]
          split
          · next hyes => exact iff_of_true ⟨true, rfl⟩ (.inl hyes)
          · next hyes =>
              split
              · next hno => exact iff_of_true ⟨false, rfl⟩ (.inr hno)
              · next hno => exact iff_of_false nofun (not_or.2 ⟨hyes, hno⟩)
      | integer | floating | boolean => exact iff_of_true ⟨_, rfl⟩ trivial
  | list | table => exact iff_of_false nofun id

example : ¬ (scalar (.text "maybe".toList) none).Fits .useUnit := by decide

end Held

/-! ### Filling the fields -/

theorem bind_eq_ok_iff {α β : Type} {x : Except Problem α} {f : α → Except Problem β} {b : β} :
    x >>= f = .ok b ↔ ∃ a, x = .ok a ∧ f a = .ok b := by
  cases x with
  | error e => exact ⟨nofun, nofun⟩
  | ok a => exact ⟨fun h => ⟨a, rfl, h⟩, fun ⟨_, ha, h⟩ => Except.ok.inj ha ▸ h⟩

namespace Preferences

section Takes

variable {α β : Type} {coerce : Held → Except Problem α} {wrap : α → β} {usual : β}

/-- What a field takes: the value of what it is given, as `wrap` puts it into the field, or its usual
value if it is given nothing. -/
def Takes (coerce : Held → Except Problem α) (wrap : α → β) (usual : β) : Option Held → β → Prop
  | some h, b => ∃ a, coerce h = .ok a ∧ b = wrap a
  | none, b => b = usual

theorem takes_iff {given : Option Held} {b : β} :
    Takes coerce wrap usual given b ↔
      ∃ a?, given.mapM coerce = .ok a? ∧ b = (a?.map wrap).getD usual := by
  cases given with
  | none => exact ⟨fun h => ⟨none, rfl, h⟩, fun ⟨_, ha, h⟩ => by cases ha; exact h⟩
  | some g =>
      constructor
      · rintro ⟨a, ha, rfl⟩
        exact ⟨some a, bind_eq_ok_iff.2 ⟨a, ha, rfl⟩, rfl⟩
      · rintro ⟨_, hg, rfl⟩
        obtain ⟨a, ha, hg⟩ := bind_eq_ok_iff.1 hg
        cases hg
        exact ⟨a, ha, rfl⟩

/-- A field that may be left out has the value of what it is given, if it is given anything. -/
theorem takes_some_iff {given : Option Held} {a? : Option α} :
    Takes coerce some none given a? ↔ given.mapM coerce = .ok a? := by
  have hgetD : ∀ a? : Option α, (a?.map some).getD none = a? := by
    rintro (_ | _) <;> rfl
  simp only [takes_iff, hgetD, exists_eq_right']

/-- A field can be filled unless it is given a value that it cannot take. -/
theorem exists_takes_iff {given : Option Held} :
    (∃ b, Takes coerce wrap usual given b) ↔ ∀ h, given = some h → ∃ a, coerce h = .ok a := by
  cases given with
  | none => exact ⟨fun _ => nofun, fun _ => ⟨usual, rfl⟩⟩
  | some g =>
      constructor
      · rintro ⟨_, a, ha, -⟩ h ⟨⟩
        exact ⟨a, ha⟩
      · intro h
        obtain ⟨a, ha⟩ := h g rfl
        exact ⟨wrap a, a, ha, rfl⟩

end Takes

/-- Preferences whose fields are filled from what each is given. -/
structure FilledFrom (given : Field → Option Held) (p : Preferences) : Prop where
  language : Takes (Held.text .language) id "th".toList (given .language) p.language
  useUnit : Takes (Held.boolean .useUnit) id true (given .useUnit) p.useUnit
  formal : Takes (Held.boolean .formal) id true (given .formal) p.formal
  negativePrefix :
    Takes (Held.text .negativePrefix) some none (given .negativePrefix) p.negativePrefix
  positiveFormat :
    Takes (Held.text .positiveFormat) some none (given .positiveFormat) p.positiveFormat
  negativeFormat :
    Takes (Held.text .negativeFormat) some none (given .negativeFormat) p.negativeFormat

/-- **All fields can be filled** unless one is given what does not fit it. -/
theorem exists_filledFrom_iff {given : Field → Option Held} :
    (∃ p, FilledFrom given p) ↔ ∀ f h, given f = some h → h.Fits f := by
  constructor
  · rintro ⟨p, hp⟩ f h hg
    cases f with
    | language => exact (Held.exists_text_iff rfl).1 (exists_takes_iff.1 ⟨_, hp.language⟩ h hg)
    | useUnit => exact (Held.exists_boolean_iff rfl).1 (exists_takes_iff.1 ⟨_, hp.useUnit⟩ h hg)
    | formal => exact (Held.exists_boolean_iff rfl).1 (exists_takes_iff.1 ⟨_, hp.formal⟩ h hg)
    | negativePrefix =>
        exact (Held.exists_text_iff rfl).1 (exists_takes_iff.1 ⟨_, hp.negativePrefix⟩ h hg)
    | positiveFormat =>
        exact (Held.exists_text_iff rfl).1 (exists_takes_iff.1 ⟨_, hp.positiveFormat⟩ h hg)
    | negativeFormat =>
        exact (Held.exists_text_iff rfl).1 (exists_takes_iff.1 ⟨_, hp.negativeFormat⟩ h hg)
  · intro hfits
    have text {β : Type} (wrap : Text → β) (usual : β) (f : Field) (hf : f.wants = .text) :
        ∃ b, Takes (Held.text f) wrap usual (given f) b :=
      exists_takes_iff.2 fun h hg => (Held.exists_text_iff hf).2 (hfits f h hg)
    have boolean (usual : Bool) (f : Field) (hf : f.wants = .boolean) :
        ∃ b, Takes (Held.boolean f) id usual (given f) b :=
      exists_takes_iff.2 fun h hg => (Held.exists_boolean_iff hf).2 (hfits f h hg)
    obtain ⟨language, hlanguage⟩ := text id "th".toList .language rfl
    obtain ⟨useUnit, huseUnit⟩ := boolean true .useUnit rfl
    obtain ⟨formal, hformal⟩ := boolean true .formal rfl
    obtain ⟨negativePrefix, hprefix⟩ := text some none .negativePrefix rfl
    obtain ⟨positiveFormat, hpositive⟩ := text some none .positiveFormat rfl
    obtain ⟨negativeFormat, hnegative⟩ := text some none .negativeFormat rfl
    exact ⟨⟨language, useUnit, formal, negativePrefix, positiveFormat, negativeFormat⟩,
      hlanguage, huseUnit, hformal, hprefix, hpositive, hnegative⟩

/-- **Assignments fill each field** from what they leave it with. -/
theorem ofAssignments_eq_ok_iff {as : List Assignment} {p : Preferences} :
    ofAssignments as = .ok p ↔ FilledFrom (fun f => held f.key as) p := by
  constructor
  · intro h
    obtain ⟨language, hlanguage, h⟩ := bind_eq_ok_iff.1 h
    obtain ⟨useUnit, huseUnit, h⟩ := bind_eq_ok_iff.1 h
    obtain ⟨formal, hformal, h⟩ := bind_eq_ok_iff.1 h
    obtain ⟨negativePrefix, hprefix, h⟩ := bind_eq_ok_iff.1 h
    obtain ⟨positiveFormat, hpositive, h⟩ := bind_eq_ok_iff.1 h
    obtain ⟨negativeFormat, hnegative, h⟩ := bind_eq_ok_iff.1 h
    cases h
    exact ⟨takes_iff.2 ⟨language, hlanguage, by rw [Option.map_id]; rfl⟩,
      takes_iff.2 ⟨useUnit, huseUnit, by rw [Option.map_id]; rfl⟩,
      takes_iff.2 ⟨formal, hformal, by rw [Option.map_id]; rfl⟩,
      takes_some_iff.2 hprefix, takes_some_iff.2 hpositive, takes_some_iff.2 hnegative⟩
  · intro h
    obtain ⟨language, hlanguage, elanguage⟩ := takes_iff.1 h.language
    obtain ⟨useUnit, huseUnit, euseUnit⟩ := takes_iff.1 h.useUnit
    obtain ⟨formal, hformal, eformal⟩ := takes_iff.1 h.formal
    rw [ofAssignments, hlanguage, huseUnit, hformal, takes_some_iff.1 h.negativePrefix,
      takes_some_iff.1 h.positiveFormat, takes_some_iff.1 h.negativeFormat]
    rw [Option.map_id] at elanguage euseUnit eformal
    obtain ⟨_, _, _, _, _, _⟩ := p
    cases elanguage
    cases euseUnit
    cases eformal
    rfl

/-- What the fields are left with is all that matters of assignments. -/
theorem ofAssignments_congr {as bs : List Assignment}
    (h : ∀ f : Field, held f.key as = held f.key bs) : ofAssignments as = ofAssignments bs := by
  simp only [ofAssignments, h]

/-- Assignments describe no preferences where they leave a field with what does not fit it. -/
theorem exists_ofAssignments_eq_error_iff {as : List Assignment} :
    (∃ problem, ofAssignments as = .error problem) ↔
      ∃ f h, held (Field.key f) as = some h ∧ ¬ h.Fits f := by
  have hok : (∃ problem, ofAssignments as = .error problem) ↔ ¬ ∃ p, ofAssignments as = .ok p := by
    cases ofAssignments as <;> simp
  simp only [hok, ofAssignments_eq_ok_iff, exists_filledFrom_iff, not_forall, exists_prop]

/-! ### Files and environment -/

/-- The configuration file for all modes. -/
def sharedFile : Text := fileName "default".toList

/-- The configuration file for the mode that an environment names. -/
def modeFile (env : List (Text × Text)) : Text :=
  fileName ((env.lookup modeVariable).getD usualMode)

/-- The entries of a file of the configuration directory, if it is a document; none if there is no
such file. -/
def entries? (files : List (Text × Text)) (name : Text) : Option Document.Entries :=
  match files.lookup name with
  | some t => Document.read (Document.withoutMark t)
  | none => some []

/-- An environment and configuration files that are documents, with the entries of the two that are
read, where no name leads inside a field and the names of variables are told apart by more than the
case of letters. -/
structure Layered (env files : List (Text × Text)) (shared special : Document.Entries) : Prop where
  shared_read : entries? files sharedFile = some shared
  special_read : entries? files (modeFile env) = some special
  shared_simple : ∀ key ∈ shared.keys, Simple key
  special_simple : ∀ key ∈ special.keys, Simple key
  variable_simple : ∀ v ∈ env, Source.SimpleVariable v.1
  lower_nodup : (env.map fun v => v.1.lower).Nodup

/-- What a field is given by the last source that has it: a variable, else the file for the mode,
else that for all modes. -/
def winner (env : List (Text × Text)) (shared special : Document.Entries) (f : Field) : Option Held :=
  (Source.fromEnvironment env f.key).or
    ((Source.fromDocument (some (.file (modeFile env))) special f.key).or
      (Source.fromDocument (some (.file sharedFile)) shared f.key))

theorem readFile_eq {files : List (Text × Text)} {name : Text} {es : Document.Entries}
    (h : entries? files name = some es) :
    readFile files name = .ok (Source.ofDocument (some (.file name)) es) := by
  rw [entries?] at h
  rw [readFile]
  cases hfile : files.lookup name with
  | some t =>
      rw [hfile] at h
      dsimp only at h ⊢
      rw [readDocument, h]
  | none =>
      rw [hfile] at h
      cases h
      rfl

theorem nodup_keys_entries? {files : List (Text × Text)} {name : Text} {es : Document.Entries}
    (h : entries? files name = some es) : es.keys.Nodup := by
  rw [entries?] at h
  split at h
  · exact Document.nodup_keys_read h
  · cases h
    exact List.nodup_nil

namespace Layered

variable {env files : List (Text × Text)} {shared special : Document.Entries}

/-- The assignments that loading collects leave each field with its winner. -/
theorem exists_load_eq (h : Layered env files shared special) :
    ∃ as, load env files = ofAssignments as ∧
      ∀ f : Field, held f.key as = winner env shared special f := by
  refine ⟨Source.ofDocument (some (.file sharedFile)) shared ++
    Source.ofDocument (some (.file (modeFile env))) special ++ Source.ofEnvironment env, ?_, ?_⟩
  · rw [load, ← sharedFile, ← modeFile, readFile_eq h.shared_read, readFile_eq h.special_read]
    rfl
  · intro f
    rw [held_append _ _ (Source.inside_ofEnvironment h.variable_simple),
      held_append _ _ (Source.inside_ofDocument _ h.special_simple),
      Source.held_ofEnvironment h.lower_nodup h.variable_simple,
      Source.held_ofDocument _ (nodup_keys_entries? h.special_read) h.special_simple,
      Source.held_ofDocument _ (nodup_keys_entries? h.shared_read) h.shared_simple, winner]

end Layered

/-- An environment with a variable for one field. -/
def sampleEnv : List (Text × Text) :=
  [("RUN_MODE".toList, "prod".toList), ("BAHTTEXT__USE_UNIT".toList, "No".toList)]

/-- Files for it, the first of which gives three fields what fits none of them, and both of which
give numbers, dates and times. -/
def sampleFiles : List (Text × Text) :=
  [("default.toml".toList,
      "language = [\"th\"]\nuse_unit = \"maybe\"\nformal = 2024-02-29 07:30:00Z\nratio = 1.5\n".toList),
    ("prod.toml".toList,
      "language = \"en\"\nformal = -0.0\nnegative_prefix = 1e3\nsince = 1979-05-27\n".toList)]

/-- The entries of the file for all modes. -/
def sampleShared : Document.Entries := (entries? sampleFiles sharedFile).get (by decide +kernel)

/-- The entries of the file for the mode. -/
def sampleSpecial : Document.Entries :=
  (entries? sampleFiles (modeFile sampleEnv)).get (by decide +kernel)

theorem layered_sample : Layered sampleEnv sampleFiles sampleShared sampleSpecial where
  shared_read := (Option.some_get _).symm
  special_read := (Option.some_get _).symm
  shared_simple := by decide +kernel
  special_simple := by decide +kernel
  variable_simple := by decide +kernel
  lower_nodup := by decide +kernel

theorem winner_sample :
    winner sampleEnv sampleShared sampleSpecial = fun
      | .language => some (.scalar (.text "en".toList) (some (.file "prod.toml".toList)))
      | .useUnit => some (.scalar (.text "No".toList) (some .environment))
      | .formal =>
        some (.scalar (.floating (.finite true ⟨0, by decide⟩)) (some (.file "prod.toml".toList)))
      | .negativePrefix =>
        some (.scalar (.floating (.finite false ⟨4652007308841189376, by decide⟩))
          (some (.file "prod.toml".toList)))
      | _ => none := by
  funext f
  cases f <;> decide +kernel

end Preferences

end BahtWords
