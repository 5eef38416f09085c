import MiniOgas.JsonText
import MiniOgas.TransportContract

namespace MiniOgas

structure TransportCodec extends Readers where
  isoFormat : Timestamp → String
  uuid : String → Bool
  messageIdOf : String → Fields → String
  format : FloatFormat
  int_int : ∀ n, int (.int n) = some n
  float_float : ∀ q, float (.float q) = some q
  bool_bool : ∀ b, bool (.bool b) = some b
  datetime_iso : ∀ t, datetime (.str (isoFormat t)) = some t

instance : Coe TransportCodec Readers := ⟨TransportCodec.toReaders⟩

/-- `JsonValue`, and `dict[str, JsonValue]`. -/
def readJsonDict : Json → Option Json
  | .obj fields => if (Json.obj fields).plain then some (.obj fields) else none
  | _ => none

/-- `^[a-z][a-z0-9_]{0,63}$`. -/
def commandTypeToken (s : String) : Bool :=
  let lower := fun c : Char => 'a' ≤ c && c ≤ 'z'
  match s.toList with
  | [] => false
  | first :: rest => lower first && rest.length ≤ 63 &&
    rest.all fun c => lower c || c.isDigit || c = '_'

section Models

variable (codec : TransportCodec)

open ReadField

def eventModel : List ReadField :=
  [required "event_type" (readTextWhen nodeToken),
    required "severity" (oneOf ["info", "low", "medium", "high", "critical"]),
    required "message" (lengthFrom 1 1024),
    defaulted "scenario_id" (.str "") (lengthAtMost 128),
    defaulted "local_sequence" (.int 0) (readIntFrom codec 0),
    required "payload" readJsonDict]

def commandModel : List ReadField :=
  [required "command_id" (readIntFrom codec 1), required "version" (readIntFrom codec 1),
    required "command_type" (readTextWhen commandTypeToken),
    required "risk_level" (oneOf ["low", "medium", "high", "critical"]),
    required "status" (oneOf ["pending", "approved", "dispatched", "received", "applied",
      "verified", "rejected", "expired", "failed"]),
    required "operator" (lengthFrom 1 128), required "parameters" readJsonDict,
    required "expires_at" (readDatetime codec),
    defaulted "confirmation_required" (.bool false) (readBoolean codec),
    defaulted "reason" (.str "") (lengthAtMost 1024)]

def auditModel : List ReadField :=
  [required "actor" (lengthFrom 1 128), required "action" (lengthFrom 1 128),
    required "resource_type" (readTextWhen nodeToken),
    required "resource_id" (lengthFrom 1 128), required "result" (lengthFrom 1 64),
    defaulted "detail" (.str "") (lengthAtMost 4096)]

end Models

mutual

/-- `model_dump(mode="json")`. -/
def dumpValue (codec : TransportCodec) : Json → Json
  | .time t => .str (codec.isoFormat t)
  | .arr items => .arr (dumpItems codec items)
  | .obj fields => .obj (dumpFields codec fields)
  | value => value

def dumpItems (codec : TransportCodec) : List Json → List Json
  | [] => []
  | item :: items => dumpValue codec item :: dumpItems codec items

def dumpFields (codec : TransportCodec) : List (String × Json) → List (String × Json)
  | [] => []
  | field :: fields => (field.1, dumpValue codec field.2) :: dumpFields codec fields

end

section Laws

variable {codec : TransportCodec} {read : Json → Option Json} {value : Json}

theorem dumpFields_eq (fields : List (String × Json)) :
    dumpFields codec fields = fields.map fun field => (field.1, dumpValue codec field.2) := by
  induction fields with
  | nil => rfl
  | cons field fields ih => rw [dumpFields, ih, List.map_cons]

theorem dumpItems_eq (items : List Json) :
    dumpItems codec items = items.map (dumpValue codec) := by
  induction items with
  | nil => rfl
  | cons item items ih => rw [dumpItems, ih, List.map_cons]

structure Rereads (codec : TransportCodec) (read : Json → Option Json) (value : Json) : Prop where
  plain : (dumpValue codec value).plain = true
  again : ∀ sent : Json, sent.sorted = (dumpValue codec value).sorted →
    ∃ value', read sent = some value' ∧ value'.sorted = value.sorted

/-- What a validator makes is read again. -/
def Stable (codec : TransportCodec) (read : Json → Option Json) : Prop :=
  ∀ sent value, read sent = some value → Rereads codec read value

theorem sorted_eq_null (same : value.sorted = .null) : value = .null := by
  cases value with
  | null => rfl
  | _ => cases same

theorem sorted_eq_bool {b : Bool} (same : value.sorted = .bool b) : value = .bool b := by
  cases value with
  | bool => exact same
  | _ => cases same

theorem sorted_eq_int {n : Int} (same : value.sorted = .int n) : value = .int n := by
  cases value with
  | int => exact same
  | _ => cases same

theorem sorted_eq_float {q : ℚ} (same : value.sorted = .float q) : value = .float q := by
  cases value with
  | float => exact same
  | _ => cases same

theorem sorted_eq_str {s : String} (same : value.sorted = .str s) : value = .str s := by
  cases value with
  | str => exact same
  | _ => cases same

theorem sorted_eq_arr {items : List Json} (same : value.sorted = .arr items) :
    ∃ sent, value = .arr sent ∧ sortedItems sent = items := by
  cases value with
  | arr sent => exact ⟨sent, rfl, Json.arr.inj same⟩
  | _ => cases same

theorem sorted_eq_obj {fields : List (String × Json)} (same : value.sorted = .obj fields) :
    ∃ sent, value = .obj sent ∧ (sortedFields sent).insertionSort keyBefore = fields := by
  cases value with
  | obj sent => exact ⟨sent, rfl, Json.obj.inj same⟩
  | _ => cases same

@[simp] theorem stable_readTextWhen (p : String → Bool) : Stable codec (readTextWhen p) := by
  intro sent value made
  obtain ⟨s, rfl, rfl, takes⟩ := readTextWhen_eq_some made
  refine ⟨rfl, fun sent same => ?_⟩
  rw [sorted_eq_str same]
  exact ⟨_, if_pos takes, rfl⟩

@[simp] theorem stable_readIntWhen (p : Int → Bool) : Stable codec (readIntWhen codec p) := by
  intro sent value made
  obtain ⟨n, filtered, rfl⟩ := Option.map_eq_some_iff.mp made
  obtain ⟨-, takes⟩ := Option.filter_eq_some_iff.mp filtered
  refine ⟨rfl, fun sent same => ?_⟩
  rw [sorted_eq_int same]
  refine ⟨.int n, ?_, rfl⟩
  unfold readIntWhen
  rw [codec.int_int, Option.filter_some, if_pos takes]
  rfl

@[simp] theorem stable_readFloatWhen (p : ℚ → Bool) : Stable codec (readFloatWhen codec p) := by
  intro sent value made
  obtain ⟨q, filtered, rfl⟩ := Option.map_eq_some_iff.mp made
  obtain ⟨-, takes⟩ := Option.filter_eq_some_iff.mp filtered
  refine ⟨rfl, fun sent same => ?_⟩
  rw [sorted_eq_float same]
  refine ⟨.float q, ?_, rfl⟩
  unfold readFloatWhen
  rw [codec.float_float, Option.filter_some, if_pos takes]
  rfl

@[simp] theorem stable_readBoolean : Stable codec (readBoolean codec) := by
  intro sent value made
  obtain ⟨b, -, rfl⟩ := Option.map_eq_some_iff.mp made
  refine ⟨rfl, fun sent same => ?_⟩
  rw [sorted_eq_bool same]
  refine ⟨.bool b, ?_, rfl⟩
  unfold readBoolean
  rw [codec.bool_bool]
  rfl

@[simp] theorem stable_readDatetime : Stable codec (readDatetime codec) := by
  intro sent value made
  obtain ⟨t, -, rfl⟩ := Option.map_eq_some_iff.mp made
  refine ⟨rfl, fun sent same => ?_⟩
  rw [sorted_eq_str same]
  refine ⟨.time t, ?_, rfl⟩
  unfold readDatetime
  rw [codec.datetime_iso]
  rfl

mutual

theorem dumpValue_plain (value : Json) (plain : value.plain = true) :
    dumpValue codec value = value := by
  cases value with
  | time => cases plain
  | arr items =>
    rw [Json.plain] at plain
    rw [dumpValue, dumpItems_plain items plain]
  | obj fields =>
    rw [Json.plain, Bool.and_eq_true] at plain
    rw [dumpValue, dumpFields_plain fields plain.2]
  | null | bool | int | float | str => rfl

theorem dumpItems_plain (items : List Json) (plain : plainItems items = true) :
    dumpItems codec items = items := by
  cases items with
  | nil => rfl
  | cons item items =>
    rw [plainItems, Bool.and_eq_true] at plain
    rw [dumpItems, dumpValue_plain item plain.1, dumpItems_plain items plain.2]

theorem dumpFields_plain (fields : List (String × Json)) (plain : plainFields fields = true) :
    dumpFields codec fields = fields := by
  cases fields with
  | nil => rfl
  | cons field fields =>
    rw [plainFields, Bool.and_eq_true] at plain
    rw [dumpFields, dumpValue_plain field.2 plain.1, dumpFields_plain fields plain.2]

end

@[simp] theorem stable_readJsonDict : Stable codec readJsonDict := by
  intro sent value made
  unfold readJsonDict at made
  split at made
  next fields =>
    split at made
    next plain =>
      cases made
      refine ⟨by rw [dumpValue_plain _ plain]; exact plain, fun sent same => ?_⟩
      rw [dumpValue_plain _ plain] at same
      obtain ⟨others, rfl, -⟩ := sorted_eq_obj same
      have also : (Json.obj others).plain = true := by
        rw [← plain_sorted, same, plain_sorted]
        exact plain
      exact ⟨.obj others, if_pos also, same⟩
    next => cases made
  next => cases made

theorem stable_optional (name : String) (stable : Stable codec read) :
    Stable codec (ReadField.optional name read).read := by
  intro sent value made
  have nothing : Rereads codec (ReadField.optional name read).read .null := by
    refine ⟨rfl, fun sent same => ?_⟩
    rw [sorted_eq_null same]
    exact ⟨.null, rfl, rfl⟩
  cases sent with
  | null =>
    cases made
    exact nothing
  | _ =>
    have rereads := stable _ _ made
    refine ⟨rereads.plain, fun sent same => ?_⟩
    cases sent with
    | null =>
      have none : dumpValue codec value = .null := sorted_eq_null same.symm
      cases value with
      | null => exact ⟨.null, rfl, rfl⟩
      | _ => cases none
    | _ => exact rereads.again _ same

theorem mapM_eq_some_iff {α β : Type} {f : α → Option β} {xs : List α} {ys : List β} :
    xs.mapM f = some ys ↔ List.Forall₂ (fun x y => f x = some y) xs ys := by
  induction xs generalizing ys with
  | nil => simp [eq_comm]
  | cons x xs ih =>
    rw [List.mapM_cons, List.forall₂_cons_left_iff]
    simp only [Option.bind_eq_bind, Option.bind_eq_some_iff, Option.pure_def, Option.some.injEq, ih]
    constructor
    · rintro ⟨y, first, ys, rest, rfl⟩
      exact ⟨y, ys, first, rest, rfl⟩
    · rintro ⟨y, ys, first, rest, rfl⟩
      exact ⟨y, first, ys, rest, rfl⟩

theorem rereads_of_forall₂ (stable : Stable codec read) {sent values : List Json}
    (made : List.Forall₂ (fun sent value => read sent = some value) sent values) :
    ∀ value ∈ values, Rereads codec read value := by
  induction made with
  | nil => exact List.forall_mem_nil _
  | cons first _ ih => exact List.forall_mem_cons.mpr ⟨stable _ _ first, ih⟩

theorem rereads_items {values sent : List Json}
    (each : ∀ value ∈ values, Rereads codec read value)
    (same : sortedItems sent = sortedItems (dumpItems codec values)) :
    ∃ values', List.Forall₂ (fun sent value => read sent = some value) sent values' ∧
      sortedItems values' = sortedItems values := by
  induction values generalizing sent with
  | nil =>
    cases sent with
    | nil => exact ⟨[], .nil, rfl⟩
    | cons => cases same
  | cons value values ih =>
    cases sent with
    | nil => cases same
    | cons item items =>
      obtain ⟨first, rest⟩ := List.cons.inj same
      obtain ⟨value', reads, alike⟩ := (each value List.mem_cons_self).again item first
      obtain ⟨values', others, equal⟩ :=
        ih (fun value member => each value (List.mem_cons_of_mem _ member)) rest
      refine ⟨value' :: values', .cons reads others, ?_⟩
      rw [sortedItems, sortedItems, alike, equal]

theorem stable_readList (limit : Nat) (stable : Stable codec read) :
    Stable codec (readList limit read) := by
  intro sent value made
  unfold readList at made
  split at made
  next items =>
    split at made
    next short =>
      obtain ⟨values, reads, rfl⟩ := Option.map_eq_some_iff.mp made
      have made := mapM_eq_some_iff.mp reads
      have length := made.length_eq
      have each : ∀ value ∈ values, Rereads codec read value := rereads_of_forall₂ stable made
      constructor
      · rw [dumpValue, Json.plain, plainItems_iff, dumpItems_eq]
        intro item member
        obtain ⟨value, there, rfl⟩ := List.mem_map.mp member
        exact (each value there).plain
      · intro sent same
        obtain ⟨others, rfl, equal⟩ := sorted_eq_arr same
        obtain ⟨values', reads', alike⟩ := rereads_items each equal
        have count : others.length ≤ limit := by
          have sizes := congrArg List.length equal
          rw [sortedItems_eq, List.length_map, sortedItems_eq, List.length_map, dumpItems_eq,
            List.length_map] at sizes
          omega
        refine ⟨.arr values', ?_, by rw [Json.sorted, Json.sorted, alike]⟩
        have taken : readList limit read (.arr others) =
            (others.mapM read).map Json.arr := if_pos count
        rw [taken, mapM_eq_some_iff.mpr reads']
        rfl
    next => cases made
  next => cases made

variable {model : List ReadField} {fields values : Fields}

theorem find_sortedFields (key : String) :
    Fields.find ((sortedFields fields).insertionSort keyBefore) key =
      (Fields.find fields key).map Json.sorted := by
  rw [Fields.find, find?_insertionSort, sortedFields_eq]
  exact find?_mapValues Json.sorted fields key

theorem find_dumpFields (key : String) :
    Fields.find (dumpFields codec fields) key = (Fields.find fields key).map (dumpValue codec) := by
  rw [dumpFields_eq]
  exact find?_mapValues (dumpValue codec) fields key

theorem sent_for_object {sent : Json} (same : sent.sorted = (Json.obj fields).sorted) :
    ∃ others : Fields, sent = .obj others ∧
      (∀ key, (Fields.find others key).map Json.sorted =
        (Fields.find fields key).map Json.sorted) ∧
      ∀ entry ∈ others, entry.1 ∈ fields.map Prod.fst := by
  obtain ⟨others, rfl, equal⟩ := sorted_eq_obj same
  refine ⟨others, rfl, fun key => ?_, fun entry member => ?_⟩
  · rw [← find_sortedFields, equal, find_sortedFields]
  · rw [← keys_sortedFields, ← ((List.perm_insertionSort keyBefore _).map Prod.fst).mem_iff,
      ← equal, ((List.perm_insertionSort keyBefore _).map Prod.fst).mem_iff, keys_sortedFields]
    exact List.mem_map_of_mem member

theorem readFields_names (made : readFields model fields = some values) :
    values.map Prod.fst = model.map (·.name) := by
  induction model generalizing values with
  | nil =>
    cases made
    rfl
  | cons field model ih =>
    unfold readFields at made
    simp only [Option.bind_eq_bind, Option.bind_eq_some_iff, Option.pure_def,
      Option.some.injEq] at made
    obtain ⟨value, -, rest, others, rfl⟩ := made
    rw [List.map_cons, List.map_cons, ih others]

structure FieldStable (codec : TransportCodec) (field : ReadField) : Prop where
  read : Stable codec field.read
  default : ∀ value, field.default = some value → Rereads codec field.read value

theorem readFields_again (stable : ∀ field ∈ model, FieldStable codec field)
    (distinct : (model.map (·.name)).Nodup) (made : readFields model fields = some values)
    {sent : Fields} (same : ∀ field ∈ model, (Fields.find sent field.name).map Json.sorted =
      ((Fields.find values field.name).map (dumpValue codec)).map Json.sorted) :
    plainFields (dumpFields codec values) = true ∧
      ∃ values', readFields model sent = some values' ∧
        sortedFields values' = sortedFields values := by
  induction model generalizing values with
  | nil =>
    cases made
    exact ⟨rfl, [], rfl, rfl⟩
  | cons field model ih =>
    unfold readFields at made
    simp only [Option.bind_eq_bind, Option.bind_eq_some_iff, Option.pure_def,
      Option.some.injEq] at made
    obtain ⟨value, first, rest, others, rfl⟩ := made
    obtain ⟨apart, distinct⟩ := List.nodup_cons.mp distinct
    have own := stable field List.mem_cons_self
    have rereads : Rereads codec field.read value := by
      unfold ReadField.make at first
      split at first
      next raw _ => exact own.read raw value first
      next => exact own.default value first
    have later : ∀ other ∈ model, Fields.find ((field.name, value) :: rest) other.name =
        Fields.find rest other.name := by
      intro other member
      have different : field.name ≠ other.name := by
        intro own
        refine apart (List.mem_map.mpr ⟨other, member, own.symm⟩)
      unfold Fields.find
      rw [List.find?_cons_of_neg (by simpa using different)]
    have same' : ∀ other ∈ model, (Fields.find sent other.name).map Json.sorted =
        ((Fields.find rest other.name).map (dumpValue codec)).map Json.sorted := by
      intro other member
      rw [same other (List.mem_cons_of_mem _ member), later other member]
    obtain ⟨plain, values', reads, alike⟩ :=
      ih (fun other member => stable other (List.mem_cons_of_mem _ member)) distinct others same'
    have head : Fields.find ((field.name, value) :: rest) field.name = some value := by
      unfold Fields.find
      rw [List.find?_cons_of_pos (by simp)]
      rfl
    have given := same field List.mem_cons_self
    rw [head] at given
    obtain ⟨raw, found, sorted⟩ := Option.map_eq_some_iff.mp given
    obtain ⟨value', read, equal⟩ := rereads.again raw sorted
    refine ⟨?_, (field.name, value') :: values', ?_, ?_⟩
    · rw [dumpFields, plainFields, Bool.and_eq_true]
      exact ⟨rereads.plain, plain⟩
    · have makes : field.make sent = some value' := by
        unfold ReadField.make
        rw [found]
        exact read
      unfold readFields
      simp only [Option.bind_eq_bind, makes, reads, Option.bind_some, Option.pure_def]
    · rw [sortedFields, sortedFields, alike, equal]

theorem stable_readModel (stable : ∀ field ∈ model, FieldStable codec field)
    (distinct : (model.map (·.name)).Nodup) : Stable codec (readModel model) := by
  intro sent value made
  unfold readModel at made
  split at made
  next fields =>
    split at made
    next =>
      obtain ⟨values, reads, rfl⟩ := Option.map_eq_some_iff.mp made
      have names := readFields_names reads
      have keys : (dumpFields codec values).map Prod.fst = model.map (·.name) := by
        rw [dumpFields_eq, List.map_map, ← names]
        rfl
      constructor
      · have trivially : ∀ field ∈ model,
            (Fields.find (dumpFields codec values) field.name).map Json.sorted =
              ((Fields.find values field.name).map (dumpValue codec)).map Json.sorted := by
          intro field _
          rw [find_dumpFields]
        obtain ⟨plain, -⟩ := readFields_again stable distinct reads trivially
        rw [dumpValue, Json.plain, Bool.and_eq_true, decide_eq_true_eq, keys]
        exact ⟨distinct, plain⟩
      · intro sent same
        obtain ⟨others, rfl, found, listed⟩ := sent_for_object same
        obtain ⟨-, values', reads', alike⟩ :=
          readFields_again stable distinct reads fun field _ => by
            rw [found, find_dumpFields]
        have known : (others.all fun entry => (model.map (·.name)).contains entry.1) = true := by
          rw [List.all_eq_true]
          intro entry member
          have there := listed entry member
          rw [keys] at there
          simpa using there
        refine ⟨.obj values', ?_, by rw [Json.sorted, Json.sorted, alike]⟩
        have taken : readModel model (.obj others) = (readFields model others).map Json.obj :=
          if_pos known
        rw [taken, reads']
        rfl
    next => cases made
  next => cases made

@[simp] theorem fieldStable_required (name : String) (stable : Stable codec read) :
    FieldStable codec (.required name read) :=
  ⟨stable, nofun⟩

@[simp] theorem fieldStable_optional (name : String) (stable : Stable codec read) :
    FieldStable codec (.optional name read) := by
  refine ⟨stable_optional name stable, fun value given => ?_⟩
  cases given
  exact stable_optional name stable .null .null rfl

theorem fieldStable_defaulted (name : String) {default : Json} (stable : Stable codec read)
    (made : read default = some default) : FieldStable codec (.defaulted name default read) := by
  refine ⟨stable, fun value given => ?_⟩
  cases given
  exact stable default default made

@[simp] theorem stable_oneOf (values : List String) : Stable codec (oneOf values) :=
  stable_readTextWhen _

@[simp] theorem stable_lengthAtMost (limit : Nat) : Stable codec (lengthAtMost limit) :=
  stable_readTextWhen _

@[simp] theorem stable_lengthFrom (low high : Nat) : Stable codec (lengthFrom low high) :=
  stable_readTextWhen _

@[simp] theorem stable_readIntFrom (low : Int) : Stable codec (readIntFrom codec low) :=
  stable_readIntWhen _

@[simp] theorem stable_readAnyFloat : Stable codec (readAnyFloat codec) := stable_readFloatWhen _

@[simp] theorem stable_readFloatFrom (low : ℚ) : Stable codec (readFloatFrom codec low) :=
  stable_readFloatWhen _

@[simp] theorem stable_readFloatBetween (low high : ℚ) :
    Stable codec (readFloatBetween codec low high) :=
  stable_readFloatWhen _

theorem stable_heartbeatModel : Stable codec (readModel (heartbeatModel codec)) := by
  have metrics : Stable codec (readModel (metricsModel codec)) :=
    stable_readModel (by simp [metricsModel]) (by simp [metricsModel, ReadField.required])
  have production : Stable codec (readModel (productionModel codec)) :=
    stable_readModel (by simp [productionModel])
      (by simp [productionModel, ReadField.required, ReadField.optional])
  have alarms : Stable codec (readList 64 (readModel (alarmModel codec))) :=
    stable_readList 64 (stable_readModel (by simp [alarmModel])
      (by simp [alarmModel, ReadField.required, ReadField.optional]))
  have sync : Stable codec (readModel (syncModel codec)) :=
    stable_readModel (by simp [syncModel]) (by simp [syncModel, ReadField.required])
  have runtime : Stable codec (readModel (runtimeModel codec)) :=
    stable_readModel (by simp [runtimeModel])
      (by simp [runtimeModel, ReadField.required, ReadField.optional])
  refine stable_readModel ?_ (by simp [heartbeatModel, ReadField.required])
  simp [heartbeatModel, metrics, production, alarms, sync, runtime]

theorem stable_eventModel : Stable codec (readModel (eventModel codec)) := by
  have scenario : FieldStable codec (.defaulted "scenario_id" (.str "") (lengthAtMost 128)) :=
    fieldStable_defaulted _ (stable_lengthAtMost 128) rfl
  have sequence : FieldStable codec
      (.defaulted "local_sequence" (.int 0) (readIntFrom codec 0)) := by
    refine fieldStable_defaulted _ (stable_readIntFrom 0) ?_
    unfold readIntFrom readIntWhen
    rw [codec.int_int]
    rfl
  refine stable_readModel ?_ (by simp [eventModel, ReadField.required, ReadField.defaulted])
  simp [eventModel, scenario, sequence]

theorem stable_commandModel : Stable codec (readModel (commandModel codec)) := by
  have confirmation : FieldStable codec
      (.defaulted "confirmation_required" (.bool false) (readBoolean codec)) := by
    refine fieldStable_defaulted _ stable_readBoolean ?_
    unfold readBoolean
    rw [codec.bool_bool]
    rfl
  have reason : FieldStable codec (.defaulted "reason" (.str "") (lengthAtMost 1024)) :=
    fieldStable_defaulted _ (stable_lengthAtMost 1024) rfl
  refine stable_readModel ?_ (by simp [commandModel, ReadField.required, ReadField.defaulted])
  simp [commandModel, confirmation, reason]

theorem stable_auditModel : Stable codec (readModel auditModel) := by
  have detail : FieldStable codec (.defaulted "detail" (.str "") (lengthAtMost 4096)) :=
    fieldStable_defaulted _ (stable_lengthAtMost 4096) rfl
  refine stable_readModel ?_ (by simp [auditModel, ReadField.required, ReadField.defaulted])
  simp [auditModel, detail]

end Laws

end MiniOgas
