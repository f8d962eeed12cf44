import DualEval.Proofs.JsonText
import DualEval.Settings.Json
import Mathlib.Data.List.Forall2
import Mathlib.Data.List.Nodup

/-!
# Settings as defaults overlaid by what is present

A field of settings has the value that a structure gives it, and its default where the structure gives none;
the structure is read unless a field that is present lacks the field's type.  The order of an object's members
and members of other names do not count.  Settings are read back from their own text
(`DualEval.settings_overlay`).
-/

namespace DualEval

namespace Json

variable {names : List String} {value given : Json} {name : String} {members : List (String × Json)}

/-! ### The fields a structure gives -/

/-- The value that a structure gives a field: an object under the field's name, a list in the field's
place. -/
inductive Gives (names : List String) : Json → String → Json → Prop where
  | byName {members : List (String × Json)} {name : String} {given : Json}
      (member : (name, given) ∈ members) : Gives names (.object members) name given
  | byPlace {items : List Json} {name : String} {given : Json} {place : Nat}
      (named : names[place]? = some name) (item : items[place]? = some given) :
      Gives names (.list items) name given

/-- The shapes of a structure: an object, or a list with no more items than there are fields. -/
inductive Shaped (names : List String) : Json → Prop where
  | object (members : List (String × Json)) : Shaped names (.object members)
  | list {items : List Json} (few : items.length ≤ names.length) : Shaped names (.list items)

/-- No name stands twice in an object. -/
def DistinctKeys : Json → Prop
  | object members => (members.map Prod.fst).Nodup
  | _ => True

theorem gives_object : Gives names (.object members) name given ↔ (name, given) ∈ members :=
  ⟨fun | .byName member => member, .byName⟩

theorem lookup_eq_some_iff (distinct : (members.map Prod.fst).Nodup) :
    members.lookup name = some given ↔ (name, given) ∈ members := by
  induction members with
  | nil => simp
  | cons member members ih =>
    obtain ⟨key, value⟩ := member
    obtain ⟨new, distinct⟩ := List.nodup_cons.mp distinct
    by_cases same : name = key
    · subst same
      have absent : (name, given) ∉ members := fun known => new (List.mem_map.mpr ⟨_, known, rfl⟩)
      simp [absent, eq_comm]
    · have other : (name == key) = false := beq_eq_false_iff_ne.mpr same
      simp [List.lookup_cons, other, same, ih distinct]

/-- A structure gives a field one value at most. -/
theorem Gives.unique (different : names.Nodup) (distinct : value.DistinctKeys) {given' : Json}
    (first : Gives names value name given) (second : Gives names value name given') : given = given' := by
  cases first with
  | byName member =>
    cases second with
    | byName member' =>
      rw [← lookup_eq_some_iff distinct] at member member'
      exact Option.some.inj (member.symm.trans member')
  | byPlace named item =>
    cases second with
    | byPlace named' item' =>
      obtain ⟨low, _⟩ := List.getElem?_eq_some_iff.mp named
      obtain rfl := (List.getElem?_inj low different).mp (named.trans named'.symm)
      exact Option.some.inj (item.symm.trans item')

/-- A list fills the slots with its items, and leaves those past the last item empty. -/
theorem getElem?_slots (items : List Json) {place count : Nat} (low : place < count) :
    (items.map some ++ List.replicate (count - items.length) none)[place]? = some items[place]? := by
  rw [List.getElem?_append, List.length_map]
  split
  case isTrue given => simp [given]
  case isFalse left =>
    have beyond : place - items.length < count - items.length := by omega
    simp [beyond, not_lt.mp left]

/-- The slots of a structure's fields in order: each holds what the structure gives its field. -/
theorem fields?_of_shaped (different : names.Nodup) (distinct : value.DistinctKeys)
    (shaped : Shaped names value) :
    ∃ slots, fields? names value = some slots ∧
      List.Forall₂ (fun name slot => ∀ given, slot = some given ↔ Gives names value name given)
        names slots := by
  cases shaped with
  | object members =>
    refine ⟨_, rfl, List.forall₂_map_right_iff.mpr (List.forall₂_same.mpr fun name _ given => ?_)⟩
    rw [gives_object, lookup_eq_some_iff distinct]
  | @list items few =>
    refine ⟨_, if_pos few, List.forall₂_iff_get.mpr ⟨by simp [few], fun place low high given => ?_⟩⟩
    have held : (items.map some ++ List.replicate (names.length - items.length) none)[place] = items[place]? :=
      (List.getElem?_eq_some_iff.mp (getElem?_slots items low)).2
    have named : names[place]? = some (names.get ⟨place, low⟩) := List.getElem?_eq_getElem low
    rw [List.get_eq_getElem, held]
    constructor
    · exact fun item => .byPlace named item
    · intro known
      cases known with
      | byPlace named' item =>
        obtain rfl := (List.getElem?_inj low different).mp (named.trans named'.symm)
        exact item

theorem shaped_of_fields? {slots : List (Option Json)} (read : fields? names value = some slots) :
    Shaped names value := by
  cases value with
  | object members => exact .object members
  | list items =>
    simp only [fields?, Option.ite_none_right_eq_some] at read
    exact .list read.1
  | _ => simp [fields?] at read

/-! ### Reading one field -/

/-- A field that may be left out: its name, the values of its type with what each stands for, and its
default. -/
structure OptionalField (α : Type) where
  name : String
  Holds : Json → α → Prop
  default : α

namespace OptionalField

variable {α : Type} (field : OptionalField α)

/-- If the field is present, it has its type. -/
def WellTyped (names : List String) (value : Json) : Prop :=
  ∀ given, Gives names value field.name given → ∃ result, field.Holds given result

/-- The value given if the field is present, and the default otherwise. -/
def Overlays (names : List String) (value : Json) (result : α) : Prop :=
  (∀ given, Gives names value field.name given → field.Holds given result) ∧
    ((∀ given, ¬ Gives names value field.name given) → result = field.default)

variable {read : Json → Option α} {slot : Option Json} {result : α}

theorem orDefault_eq_some_iff (slotted : ∀ given, slot = some given ↔ Gives names value field.name given)
    (reads : ∀ given, Gives names value field.name given →
      ∀ result, read given = some result ↔ field.Holds given result) :
    orDefault field.default read slot = some result ↔ field.Overlays names value result := by
  simp only [Overlays, ← slotted] at reads ⊢
  cases slot with
  | none => simp [orDefault, eq_comm]
  | some present => simpa [orDefault] using reads present rfl result

/-- A field that has its type if it is present has some value. -/
theorem exists_overlays_iff (different : names.Nodup) (distinct : value.DistinctKeys) :
    (∃ result, field.Overlays names value result) ↔ field.WellTyped names value := by
  constructor
  · rintro ⟨result, holds, _⟩
    exact fun given known => ⟨result, holds given known⟩
  · intro typed
    by_cases present : ∃ given, Gives names value field.name given
    · obtain ⟨given, known⟩ := present
      obtain ⟨result, holds⟩ := typed given known
      exact ⟨result, fun other known' => known.unique different distinct known' ▸ holds,
        fun absent => (absent given known).elim⟩
    · exact ⟨field.default, fun given known => (present ⟨given, known⟩).elim, fun _ => rfl⟩

end OptionalField

/-! ### The types of values -/

variable {α : Type} {label : α → String} {variants : List α} {variant : α}

/-- A variant stands as its name, or as the only name of an object, with null. -/
inductive Named (label : α → String) (variant : α) : Json → Prop where
  | bare : Named label variant (.text (label variant))
  | keyed : Named label variant (.object [(label variant, .null)])

theorem find?_label (different : Function.Injective label) (all : ∀ variant, variant ∈ variants) {s : String} :
    (variants.find? fun other => label other = s) = some variant ↔ s = label variant := by
  constructor
  · intro found
    simpa [eq_comm] using List.find?_some found
  · rintro rfl
    have some : (variants.find? fun other => label other = label variant).isSome :=
      List.find?_isSome.mpr ⟨variant, all variant, decide_eq_true rfl⟩
    obtain ⟨other, found⟩ := Option.isSome_iff_exists.mp some
    have same : label other = label variant := by simpa using List.find?_some found
    rwa [different same] at found

theorem variant?_eq_some_iff (different : Function.Injective label) (all : ∀ variant, variant ∈ variants) :
    variant? label variants value = some variant ↔ Named label variant value := by
  unfold variant?
  split
  case h_1 s =>
    rw [find?_label different all]
    exact ⟨fun same => same ▸ .bare, fun | .bare => rfl⟩
  case h_2 s =>
    rw [find?_label different all]
    exact ⟨fun same => same ▸ .keyed, fun | .keyed => rfl⟩
  case h_3 notText notObject =>
    refine ⟨fun known => by contradiction, ?_⟩
    rintro (_ | _)
    · exact (notText _ rfl).elim
    · exact (notObject _ rfl).elim

/-- A number stands for the nearest 32-bit datum, an exact integer directly and any other by its 64-bit
datum. -/
inductive Measures : Json → Binary32 → Prop where
  | integer (n : Int) : Measures (.integer n) (Datum.ofInt binary32 n)
  | float (x : Binary64) : Measures (.float x) (x.convert binary32)

theorem binary32?_eq_some_iff {x : Binary32} : binary32? value = some x ↔ Measures value x := by
  constructor
  · intro read
    cases value with
    | integer n => exact Option.some.inj read ▸ .integer n
    | float y => exact Option.some.inj read ▸ .float y
    | _ => simp [binary32?] at read
  · rintro (_ | _) <;> rfl

theorem bool?_eq_some_iff {b : Bool} : bool? value = some b ↔ value = .bool b := by
  cases value <;> simp [bool?]

theorem word?_eq_some_iff {n : { n : Nat // n < UInt64.size }} :
    word? value = some n ↔ value = .integer (n.val : Nat) := by
  constructor
  · intro read
    unfold word? at read
    split at read
    · split at read
      · obtain rfl := Option.some.inj read
        rfl
      · contradiction
    · contradiction
  · rintro rfl
    exact dif_pos n.property

end Json

namespace AcceleratorSettings

open Json

/-- The preference, as a variant's name. -/
def preferenceField : OptionalField PowerPreference where
  name := "power_preference"
  Holds given preference := Named PowerPreference.name preference given
  default := .highPerformance

def fallbackField : OptionalField Bool where
  name := "force_fallback_adapter"
  Holds given b := given = .bool b
  default := false

/-- The bound in milliseconds, as an integer that fits one 64-bit word. -/
def timeoutField : OptionalField { n : Nat // n < UInt64.size } where
  name := "readback_timeout_ms"
  Holds given bound := given = .integer (bound.val : Nat)
  default := ⟨5000, defaultTimeoutMs_lt⟩

/-- Every field that is present has its type. -/
structure WellTyped (value : Json) : Prop where
  preference : preferenceField.WellTyped fieldNames value
  fallback : fallbackField.WellTyped fieldNames value
  timeout : timeoutField.WellTyped fieldNames value

/-- The defaults overlaid by the fields present. -/
structure Overlaid (value : Json) (s : AcceleratorSettings) : Prop where
  preference : preferenceField.Overlays fieldNames value s.powerPreference
  fallback : fallbackField.Overlays fieldNames value s.forceFallbackAdapter
  timeout : timeoutField.Overlays fieldNames value ⟨s.readbackTimeoutMs, s.readbackTimeoutMs_lt⟩

variable {value : Json} {s : AcceleratorSettings}

theorem preference_reads (given : Json) (preference : PowerPreference) :
    PowerPreference.ofJson? given = some preference ↔ preferenceField.Holds given preference := by
  refine variant?_eq_some_iff (fun first second same => ?_) (fun preference => ?_)
  · cases first <;> cases second <;> simp_all [PowerPreference.name]
  · cases preference <;> simp

theorem ofJson?_of_shaped (distinct : value.DistinctKeys) (shaped : Shaped fieldNames value) :
    ofJson? value = some s ↔ Overlaid value s := by
  obtain ⟨slots, read, slotted⟩ := fields?_of_shaped (by decide) distinct shaped
  simp only [fieldNames, List.forall₂_cons_left_iff, List.forall₂_nil_left_iff] at slotted
  obtain ⟨preference, _, preferenceSlot, ⟨fallback, _, fallbackSlot, ⟨timeout, _, timeoutSlot, rfl, rfl⟩, rfl⟩,
    rfl⟩ := slotted
  have preferenceRead (result : PowerPreference) :
      orDefault .highPerformance PowerPreference.ofJson? preference = some result ↔
        preferenceField.Overlays fieldNames value result :=
    preferenceField.orDefault_eq_some_iff preferenceSlot fun given _ => preference_reads given
  have fallbackRead (result : Bool) :
      orDefault false bool? fallback = some result ↔ fallbackField.Overlays fieldNames value result :=
    fallbackField.orDefault_eq_some_iff fallbackSlot fun _ _ _ => bool?_eq_some_iff
  have timeoutRead (result : { n : Nat // n < UInt64.size }) :
      orDefault ⟨5000, defaultTimeoutMs_lt⟩ word? timeout = some result ↔
        timeoutField.Overlays fieldNames value result :=
    timeoutField.orDefault_eq_some_iff timeoutSlot fun _ _ _ => word?_eq_some_iff
  simp only [ofJson?, read, Option.bind_eq_bind, Option.bind_some, Option.bind_eq_some_iff, Option.pure_def,
    Option.some.injEq, preferenceRead, fallbackRead, timeoutRead]
  constructor
  · rintro ⟨_, preference, _, fallback, _, timeout, rfl⟩
    exact ⟨preference, fallback, timeout⟩
  · intro overlaid
    exact ⟨_, overlaid.preference, _, overlaid.fallback, _, overlaid.timeout, rfl⟩

theorem exists_overlaid_iff (distinct : value.DistinctKeys) : (∃ s, Overlaid value s) ↔ WellTyped value := by
  have different : fieldNames.Nodup := by decide
  constructor
  · rintro ⟨s, overlaid⟩
    exact ⟨(preferenceField.exists_overlays_iff different distinct).mp ⟨_, overlaid.preference⟩,
      (fallbackField.exists_overlays_iff different distinct).mp ⟨_, overlaid.fallback⟩,
      (timeoutField.exists_overlays_iff different distinct).mp ⟨_, overlaid.timeout⟩⟩
  · intro typed
    obtain ⟨_, preference⟩ := (preferenceField.exists_overlays_iff different distinct).mpr typed.preference
    obtain ⟨_, fallback⟩ := (fallbackField.exists_overlays_iff different distinct).mpr typed.fallback
    obtain ⟨bound, timeout⟩ := (timeoutField.exists_overlays_iff different distinct).mpr typed.timeout
    exact ⟨⟨_, _, bound.val, bound.property⟩, preference, fallback, timeout⟩

theorem ofJson?_eq_some_iff (distinct : value.DistinctKeys) :
    ofJson? value = some s ↔ Shaped fieldNames value ∧ Overlaid value s := by
  constructor
  · intro read
    have shaped : Shaped fieldNames value := by
      simp only [ofJson?, Option.bind_eq_bind, Option.bind_eq_some_iff] at read
      obtain ⟨slots, fields, _⟩ := read
      exact shaped_of_fields? fields
    exact ⟨shaped, (ofJson?_of_shaped distinct shaped).mp read⟩
  · rintro ⟨shaped, overlaid⟩
    exact (ofJson?_of_shaped distinct shaped).mpr overlaid

/-! ### Writing settings and reading them back -/

theorem distinctKeys_toJson (s : AcceleratorSettings) : s.toJson.DistinctKeys := by
  simp [DistinctKeys, toJson]

theorem faithful_toJson (s : AcceleratorSettings) : Faithful s.toJson := by
  have fits : isExact s.readbackTimeoutMs = true := by
    have small := s.readbackTimeoutMs_lt
    simp only [isExact, Bool.and_eq_true, decide_eq_true_eq]
    exact ⟨le_trans (by decide) (Int.natCast_nonneg _), by exact_mod_cast small⟩
  refine .object (distinctKeys_toJson s) fun member known => ?_
  simp only [List.mem_cons, List.not_mem_nil, or_false] at known
  rcases known with rfl | rfl | rfl
  · exact .text _
  · exact .bool _
  · exact .integer fits

theorem overlaid_toJson (s : AcceleratorSettings) : Overlaid s.toJson s where
  preference := by
    simp [OptionalField.Overlays, toJson, gives_object, preferenceField, Named.bare]
  fallback := by
    simp [OptionalField.Overlays, toJson, gives_object, fallbackField]
  timeout := by
    simp [OptionalField.Overlays, toJson, gives_object, timeoutField]

theorem parse?_render (s : AcceleratorSettings) : parse? s.render = some s := by
  have read : ofJson? s.toJson = some s :=
    (ofJson?_of_shaped (distinctKeys_toJson s) (.object _)).mpr (overlaid_toJson s)
  rw [parse?, render, Json.parse?_render (faithful_toJson s), Option.bind_some, read]

/-! ### The bound on a wait -/

theorem nanoseconds_readbackTimeout (s : AcceleratorSettings) :
    s.readbackTimeout.nanoseconds = max 1 s.readbackTimeoutMs * 10 ^ 6 := by
  rw [readbackTimeout, Duration.ofMilliseconds, Nat.max_comm]
  rfl

/-- Whole seconds of one 64-bit word and less than a second beside them hold the bound. -/
theorem readbackTimeout_eq_ofSeconds (s : AcceleratorSettings) :
    ∃ seconds nanoseconds, seconds < UInt64.size ∧ nanoseconds < 10 ^ 9 ∧
      s.readbackTimeout = .ofSeconds seconds nanoseconds := by
  have small := s.readbackTimeoutMs_lt
  refine ⟨max 1 s.readbackTimeoutMs / 1000, max 1 s.readbackTimeoutMs % 1000 * 10 ^ 6, ?_, ?_, ?_⟩
  · have word : 1 < UInt64.size := by decide
    omega
  · omega
  · apply congrArg Duration.mk
    omega

end AcceleratorSettings

namespace EvaluatorSettings

open Json

/-- Nested settings: an object or a list of fields with their types, overlaying the defaults. -/
def acceleratorField : OptionalField AcceleratorSettings where
  name := "accelerator"
  Holds given s := Shaped AcceleratorSettings.fieldNames given ∧ AcceleratorSettings.Overlaid given s
  default := {}

def toleranceField : OptionalField Binary32 where
  name := "parity_tolerance"
  Holds := Measures
  default := defaultTolerance

/-- Every field that is present has its type. -/
structure WellTyped (value : Json) : Prop where
  accelerator : acceleratorField.WellTyped fieldNames value
  tolerance : toleranceField.WellTyped fieldNames value

/-- The defaults overlaid by the fields present. -/
structure Overlaid (value : Json) (s : EvaluatorSettings) : Prop where
  accelerator : acceleratorField.Overlays fieldNames value s.accelerator
  tolerance : toleranceField.Overlays fieldNames value s.parityTolerance

variable {value : Json} {s : EvaluatorSettings}

theorem ofJson?_of_shaped (distinct : value.DistinctKeys)
    (nested : ∀ given, Gives fieldNames value "accelerator" given → given.DistinctKeys)
    (shaped : Shaped fieldNames value) :
    ofJson? value = some s ↔ Overlaid value s := by
  obtain ⟨slots, read, slotted⟩ := fields?_of_shaped (by decide) distinct shaped
  simp only [fieldNames, List.forall₂_cons_left_iff, List.forall₂_nil_left_iff] at slotted
  obtain ⟨accelerator, _, acceleratorSlot, ⟨tolerance, _, toleranceSlot, rfl, rfl⟩, rfl⟩ := slotted
  have acceleratorRead (result : AcceleratorSettings) :
      orDefault {} AcceleratorSettings.ofJson? accelerator = some result ↔
        acceleratorField.Overlays fieldNames value result :=
    acceleratorField.orDefault_eq_some_iff acceleratorSlot fun given known _ =>
      AcceleratorSettings.ofJson?_eq_some_iff (nested given known)
  have toleranceRead (result : Binary32) :
      orDefault defaultTolerance binary32? tolerance = some result ↔
        toleranceField.Overlays fieldNames value result :=
    toleranceField.orDefault_eq_some_iff toleranceSlot fun _ _ _ => binary32?_eq_some_iff
  simp only [ofJson?, read, Option.bind_eq_bind, Option.bind_some, Option.bind_eq_some_iff, Option.pure_def,
    Option.some.injEq, acceleratorRead, toleranceRead]
  constructor
  · rintro ⟨_, accelerator, _, tolerance, rfl⟩
    exact ⟨accelerator, tolerance⟩
  · intro overlaid
    exact ⟨_, overlaid.accelerator, _, overlaid.tolerance, rfl⟩

theorem exists_overlaid_iff (distinct : value.DistinctKeys) : (∃ s, Overlaid value s) ↔ WellTyped value := by
  have different : fieldNames.Nodup := by decide
  constructor
  · rintro ⟨s, overlaid⟩
    exact ⟨(acceleratorField.exists_overlays_iff different distinct).mp ⟨_, overlaid.accelerator⟩,
      (toleranceField.exists_overlays_iff different distinct).mp ⟨_, overlaid.tolerance⟩⟩
  · intro typed
    obtain ⟨_, accelerator⟩ := (acceleratorField.exists_overlays_iff different distinct).mpr typed.accelerator
    obtain ⟨_, tolerance⟩ := (toleranceField.exists_overlays_iff different distinct).mpr typed.tolerance
    exact ⟨⟨_, _⟩, accelerator, tolerance⟩

end EvaluatorSettings

/-- **Settings are the defaults overlaid by what is present.** An object with distinct keys is read as settings
iff the fields present have their types, and each field is then the value given or else the default; this goes
for the settings of a session and for the evaluator's settings that nest them.  A session's settings are read
back from their own text.  The bound on a wait is as many milliseconds as set, one at least; whole seconds of a
64-bit word hold it, and it is never zero. -/
theorem settings_overlay :
    (∀ members : List (String × Json), (members.map Prod.fst).Nodup →
      ((∃ s, AcceleratorSettings.ofJson? (.object members) = some s) ↔
        AcceleratorSettings.WellTyped (.object members)) ∧
      ∀ s, AcceleratorSettings.ofJson? (.object members) = some s ↔
        AcceleratorSettings.Overlaid (.object members) s) ∧
    (∀ members : List (String × Json), (members.map Prod.fst).Nodup →
      (∀ given, ("accelerator", given) ∈ members → given.DistinctKeys) →
      ((∃ s, EvaluatorSettings.ofJson? (.object members) = some s) ↔
        EvaluatorSettings.WellTyped (.object members)) ∧
      ∀ s, EvaluatorSettings.ofJson? (.object members) = some s ↔
        EvaluatorSettings.Overlaid (.object members) s) ∧
    (∀ s : AcceleratorSettings, AcceleratorSettings.parse? s.render = some s) ∧
    ∀ s : AcceleratorSettings,
      s.readbackTimeout.nanoseconds = max 1 s.readbackTimeoutMs * 10 ^ 6 ∧
      (∃ seconds nanoseconds, seconds < UInt64.size ∧ nanoseconds < 10 ^ 9 ∧
        s.readbackTimeout = .ofSeconds seconds nanoseconds) ∧
      0 < s.readbackTimeout.nanoseconds := by
  refine ⟨fun members distinct => ?_, fun members distinct nested => ?_, AcceleratorSettings.parse?_render,
    fun s => ⟨s.nanoseconds_readbackTimeout, s.readbackTimeout_eq_ofSeconds, s.readbackTimeout_pos⟩⟩
  · have keys : (Json.object members).DistinctKeys := distinct
    have read (s : AcceleratorSettings) := AcceleratorSettings.ofJson?_of_shaped (s := s) keys (.object members)
    exact ⟨(exists_congr read).trans (AcceleratorSettings.exists_overlaid_iff keys), read⟩
  · have keys : (Json.object members).DistinctKeys := distinct
    have read (s : EvaluatorSettings) := EvaluatorSettings.ofJson?_of_shaped (s := s) keys
      (fun given known => nested given (Json.gives_object.mp known)) (.object members)
    exact ⟨(exists_congr read).trans (EvaluatorSettings.exists_overlaid_iff keys), read⟩

/-- An unknown key does not count, and nested settings are overlaid in turn. -/
theorem settings_overlay_nested :
    EvaluatorSettings.ofJson? (.object [("unknown", .null), ("accelerator", .object [
        ("readback_timeout_ms", .integer 7), ("power_preference", .text "LowPower")])]) =
      some { accelerator := {
        powerPreference := .lowPower, readbackTimeoutMs := 7, readbackTimeoutMs_lt := by decide } } := by
  refine ((settings_overlay.2.1 _ (by simp) (by simp [Json.DistinctKeys])).2 _).mpr ⟨?_, ?_⟩
  · have nested : AcceleratorSettings.ofJson? (.object [
        ("readback_timeout_ms", .integer 7), ("power_preference", .text "LowPower")]) =
        some { powerPreference := .lowPower, readbackTimeoutMs := 7, readbackTimeoutMs_lt := by decide } := rfl
    have held := (AcceleratorSettings.ofJson?_eq_some_iff (by simp [Json.DistinctKeys])).mp nested
    simpa [Json.OptionalField.Overlays, EvaluatorSettings.acceleratorField, Json.gives_object] using held
  · simp [Json.OptionalField.Overlays, EvaluatorSettings.toleranceField, Json.gives_object]

end DualEval
