import CgroupMeter.Proofs.Json.RoundTrip
import CgroupMeter.Store.Document

/-!
# Documents are read back

The document of a store is read back as the entries that were written.  Every
part of an entry comes back as it was, except that the number of CPUs a
container may use is read by the fast rule for floating-point numbers: it
comes back as whatever that rule makes of its shortest decimal.

Two conditions are needed and named.  All times have to be in the range of the
clock, and the number of CPUs has to come back as some number.
-/

namespace CgroupMeter

/-! ## Fields of records -/

namespace Json

theorem members?_membersAsRead (members : List (String × WrittenJson)) :
    ReadJson.members? (membersAsRead members) =
      some (members.map fun member => (member.1, asRead member.2)) := by
  induction members with
  | nil => rfl
  | cons member members ih =>
      rcases member with ⟨name, value⟩
      rw [membersAsRead, ReadJson.members?, ih]
      rfl

theorem filter_membersAsRead_eq_nil {members : List (String × WrittenJson)}
    {name : String} (absent : name ∉ members.map Prod.fst) :
    ((membersAsRead members).filter fun member => member.1 = some name) = [] := by
  induction members with
  | nil => rfl
  | cons member members ih =>
      rcases member with ⟨other, value⟩
      simp only [List.map_cons, List.mem_cons, not_or] at absent
      simp [membersAsRead, Ne.symm absent.1, ih absent.2]

theorem member?_membersAsRead {members : List (String × WrittenJson)}
    (distinct : (members.map Prod.fst).Nodup) {member : String × WrittenJson}
    (present : member ∈ members) :
    member? (membersAsRead members) (some member.1) =
      some (asRead member.2) := by
  suffices found :
      ((membersAsRead members).filter fun other => other.1 = some member.1) =
        [(some member.1, asRead member.2)] by
    rw [member?, found]
  induction members with
  | nil => cases present
  | cons first members ih =>
      rcases first with ⟨name, value⟩
      rw [List.map_cons, List.nodup_cons] at distinct
      rcases List.mem_cons.1 present with rfl | later
      · simp [membersAsRead, filter_membersAsRead_eq_nil distinct.1]
      · have different : name ≠ member.1 := by
          have listed : member.1 ∈ members.map Prod.fst :=
            List.mem_map_of_mem later
          rintro rfl
          exact distinct.1 listed
        simp [membersAsRead, different, ih distinct.2 later]

/-- The fields of a written record are read back in their order. -/
theorem fields?_asRead (members : List (String × WrittenJson))
    (distinct : (members.map Prod.fst).Nodup) :
    ReadJson.fields? (members.map Prod.fst) (asRead (.object members)) =
      some (members.map fun member => asRead member.2) := by
  have each : ∀ listed : List (String × WrittenJson), listed ⊆ members →
      (listed.map Prod.fst).mapM
          (fun name => member? (membersAsRead members) (some name)) =
        some (listed.map fun member => asRead member.2) := by
    intro listed part
    induction listed with
    | nil => rfl
    | cons member listed ih =>
        rw [List.map_cons, List.mapM_cons,
          member?_membersAsRead distinct (part List.mem_cons_self),
          ih fun other present => part (List.mem_cons_of_mem member present)]
        rfl
  rw [asRead, ReadJson.fields?, members?_membersAsRead]
  exact each members (List.Subset.refl members)

/-- A written record has no other fields than its own. -/
theorem exactFields?_asRead (members : List (String × WrittenJson))
    (distinct : (members.map Prod.fst).Nodup) :
    ReadJson.exactFields? (members.map Prod.fst) (asRead (.object members)) =
      some (members.map fun member => asRead member.2) := by
  have own : (membersAsRead members).all (fun member =>
      (members.map Prod.fst).any fun name => member.1 = some name) = true := by
    have listed : ∀ found ∈ membersAsRead members,
        ∃ member ∈ members, found.1 = some member.1 := by
      intro found present
      induction members with
      | nil => cases present
      | cons first members ih =>
          rcases first with ⟨name, value⟩
          rw [membersAsRead] at present
          rcases List.mem_cons.1 present with rfl | later
          · exact ⟨(name, value), List.mem_cons_self, rfl⟩
          · rw [List.map_cons, List.nodup_cons] at distinct
            rcases ih distinct.2 later with ⟨member, inside, named⟩
            exact ⟨member, List.mem_cons_of_mem _ inside, named⟩
    rw [List.all_eq_true]
    intro found present
    rcases listed found present with ⟨member, inside, named⟩
    rw [List.any_eq_true]
    exact ⟨member.1, List.mem_map_of_mem inside, by simp [named]⟩
  have fields := fields?_asRead members distinct
  rw [asRead] at fields ⊢
  rw [ReadJson.exactFields?, if_pos own]
  exact fields

theorem objectOf_ok (members : List (String × WrittenJson)) :
    objectOf (members.map fun member => (member.1, .ok member.2)) =
      .ok (.object members) := by
  suffices after : ∀ before,
      objectAfter before (members.map fun member => (member.1, .ok member.2)) =
        .ok (.object (before ++ members)) from after []
  induction members with
  | nil =>
      intro before
      simp [objectAfter]
  | cons member members ih =>
      intro before
      rw [List.map_cons, objectAfter, ih]
      simp

/-- An object is cut off when one of its members is. -/
theorem objectOf_error {members : List (String × Except Cut WrittenJson)}
    {name : String} {cut : Cut} (member : (name, .error cut) ∈ members) :
    ∃ cut', objectOf members = .error cut' := by
  suffices after : ∀ before, ∃ cut', objectAfter before members = .error cut'
    from after []
  induction members with
  | nil => cases member
  | cons first members ih =>
      intro before
      rcases first with ⟨other, written⟩
      rcases List.mem_cons.1 member with equal | later
      · cases equal
        exact ⟨_, rfl⟩
      · cases written with
        | error inner => exact ⟨_, rfl⟩
        | ok value => exact ih later _

end Json

/-! ## Numbers and times -/

namespace ReadJson

theorem uint64?_ofNat {number : Nat} (small : number < UInt64.size) :
    uint64? (Json.asRead (Json.ofNat number)) = some (UInt64.ofNat number) := by
  simp [Json.ofNat, Json.asRead, uint64?, natBelow?, Option.filter, small]

theorem uint32?_ofNat {number : Nat} (small : number < UInt32.size) :
    uint32? (Json.asRead (Json.ofNat number)) = some (UInt32.ofNat number) := by
  simp [Json.ofNat, Json.asRead, uint32?, natBelow?, Option.filter, small]

@[simp]
theorem uint64?_asRead (number : UInt64) :
    uint64? (Json.asRead (Json.ofUInt64 number)) = some number := by
  rw [Json.ofUInt64, uint64?_ofNat number.toNat_lt, UInt64.ofNat_toNat]

@[simp]
theorem uint32?_asRead (number : UInt32) :
    uint32? (Json.asRead (Json.ofNat number.toNat)) = some number := by
  rw [uint32?_ofNat number.toNat_lt, UInt32.ofNat_toNat]

end ReadJson

namespace Time

/-- A time that the clock can show, from the start of 1970 on. -/
def InRange (time : Time) : Prop :=
  0 ≤ time.nanos ∧ time.nanos < (secondBound * nanosPerSecond : Nat)

/-- A time is written exactly when it is not before the start of 1970. -/
theorem toJson_of_nonneg {time : Time} (later : 0 ≤ time.nanos) :
    time.toJson = .ok (.object [
      (secondsField, Json.ofNat (time.nanos.toNat / nanosPerSecond)),
      (nanosField, Json.ofNat (time.nanos.toNat % nanosPerSecond))]) := by
  rw [toJson, if_neg (by omega)]

theorem toJson_of_neg {time : Time} (earlier : time.nanos < 0) :
    time.toJson = .error [] := by
  rw [toJson, if_pos earlier]

theorem ofJson?_asRead {time : Time} (range : time.InRange) :
    ∃ written, time.toJson = .ok written ∧
      ofJson? (Json.asRead written) = some time := by
  refine ⟨_, toJson_of_nonneg range.1, ?_⟩
  rcases time with ⟨nanos⟩
  rcases range with ⟨later, bounded⟩
  simp only at later bounded
  have named : ([secondsField, nanosField] : List String).Nodup := by decide
  have fields :=
    Json.exactFields?_asRead [
      (secondsField, Json.ofNat (nanos.toNat / nanosPerSecond)),
      (nanosField, Json.ofNat (nanos.toNat % nanosPerSecond))] named
  simp only [List.map_cons, List.map_nil] at fields
  have secondsBound : nanos.toNat / nanosPerSecond < secondBound :=
    Nat.div_lt_of_lt_mul (by rw [Nat.mul_comm]; omega)
  have secondsSmall : nanos.toNat / nanosPerSecond < UInt64.size :=
    Nat.lt_trans secondsBound (by decide)
  have nanosBound : nanos.toNat % nanosPerSecond < nanosPerSecond :=
    Nat.mod_lt _ (by decide)
  have nanosSmall : nanos.toNat % nanosPerSecond < UInt32.size :=
    Nat.lt_trans nanosBound (by decide)
  have secondsValue :
      (UInt64.ofNat (nanos.toNat / nanosPerSecond)).toNat =
        nanos.toNat / nanosPerSecond := UInt64.toNat_ofNat_of_lt secondsSmall
  have restValue :
      (UInt32.ofNat (nanos.toNat % nanosPerSecond)).toNat =
        nanos.toNat % nanosPerSecond := UInt32.toNat_ofNat_of_lt nanosSmall
  have whole :
      nanos.toNat / nanosPerSecond * nanosPerSecond +
        nanos.toNat % nanosPerSecond = nanos.toNat :=
    Nat.div_add_mod' nanos.toNat nanosPerSecond
  have noCarry : nanos.toNat % nanosPerSecond / nanosPerSecond = 0 :=
    Nat.div_eq_of_lt nanosBound
  simp only [ofJson?, fields, Option.bind_eq_bind, Option.bind_some,
    ReadJson.uint64?_ofNat secondsSmall, ReadJson.uint32?_ofNat nanosSmall,
    secondsValue, restValue, noCarry, Nat.add_zero, secondsBound, if_true,
    whole]
  have sign : ((nanos.toNat : Nat) : Int) = nanos := by omega
  rw [sign]
  rfl

end Time

/-! ## Entries -/

namespace JsonNumber

/-- What a floating-point number is read as after it was written. -/
def reread? (number : Float) : Option Float :=
  (ofFloat? number).bind toFloat?

end JsonNumber

theorem ReadJson.float?_asRead {number again : Float}
    (back : JsonNumber.reread? number = some again) :
    ReadJson.float? (Json.asRead (Json.ofFloat number)) = some again := by
  rcases Option.bind_eq_some_iff.1 back with ⟨written, writes, reads⟩
  rw [Json.ofFloat, writes, Json.asRead]
  exact reads

namespace RawCpu

/-- CPU counters as they come back from a document. -/
def reread (cpu : RawCpu) : RawCpu :=
  { cpu with
    limitCores := (JsonNumber.reread? cpu.limitCores).getD cpu.limitCores }

theorem counters?_asRead (counters : List Counter) :
    counters? (Json.asRead (.array (counters.map Json.ofUInt64))) =
      some counters := by
  rw [Json.asRead, counters?]
  induction counters with
  | nil => rfl
  | cons counter counters ih =>
      rw [List.map_cons, Json.itemsAsRead, List.mapM_cons,
        ReadJson.uint64?_asRead, ih]
      rfl

theorem ofJson?_asRead {cpu : RawCpu} {again : Float}
    (back : JsonNumber.reread? cpu.limitCores = some again) :
    ofJson? (Json.asRead cpu.toJson) = some cpu.reread := by
  have limit := ReadJson.float?_asRead back
  have named : fieldNames.Nodup := by decide
  have fields := Json.fields?_asRead (fieldNames.zip [
    Json.ofUInt64 cpu.totalUsage, Json.ofUInt64 cpu.userUsage,
    Json.ofUInt64 cpu.kernelUsage, .array (cpu.perCpuUsage.map Json.ofUInt64),
    Json.ofUInt64 cpu.systemUsage, Json.ofNat cpu.onlineCpus.toNat,
    Json.ofUInt64 cpu.throttlingPeriods, Json.ofUInt64 cpu.throttledPeriods,
    Json.ofUInt64 cpu.throttledNanos, Json.ofUInt64 cpu.shares,
    Json.ofFloat cpu.limitCores]) named
  have read :
      (Json.asRead cpu.toJson).fields? fieldNames = some [
        Json.asRead (Json.ofUInt64 cpu.totalUsage),
        Json.asRead (Json.ofUInt64 cpu.userUsage),
        Json.asRead (Json.ofUInt64 cpu.kernelUsage),
        Json.asRead (.array (cpu.perCpuUsage.map Json.ofUInt64)),
        Json.asRead (Json.ofUInt64 cpu.systemUsage),
        Json.asRead (Json.ofNat cpu.onlineCpus.toNat),
        Json.asRead (Json.ofUInt64 cpu.throttlingPeriods),
        Json.asRead (Json.ofUInt64 cpu.throttledPeriods),
        Json.asRead (Json.ofUInt64 cpu.throttledNanos),
        Json.asRead (Json.ofUInt64 cpu.shares),
        Json.asRead (Json.ofFloat cpu.limitCores)] := fields
  simp only [ofJson?, read, Option.bind_eq_bind, Option.bind_some,
    ReadJson.uint64?_asRead, ReadJson.uint32?_asRead, counters?_asRead, limit]
  rw [reread, back]
  rfl

end RawCpu

namespace StoreEntry

/-- An entry as it comes back from a document. -/
def reread (entry : StoreEntry) : StoreEntry :=
  { entry with sample := { entry.sample with cpu := entry.sample.cpu.reread } }

/-- An entry that comes back from a document: its times are in the range of
the clock, and its number of CPUs comes back as some number. -/
def Survives (entry : StoreEntry) : Prop :=
  entry.updatedAt.InRange ∧ entry.sample.time.InRange ∧
    ∃ again, JsonNumber.reread? entry.sample.cpu.limitCores = some again

theorem ofJson?_asRead {entry : StoreEntry} (survives : entry.Survives) :
    ∃ written, entry.toJson = .ok written ∧
      ofJson? (Json.asRead written) = some entry.reread := by
  rcases entry with ⟨updatedAt, ⟨time, cpu⟩⟩
  rcases survives with ⟨updatedRange, timeRange, again, back⟩
  rcases Time.ofJson?_asRead updatedRange with
    ⟨updatedWritten, updatedWrites, updatedRead⟩
  rcases Time.ofJson?_asRead timeRange with ⟨timeWritten, timeWrites, timeRead⟩
  have cpuRead := RawCpu.ofJson?_asRead back
  have sampleNames : (["timestamp", "cpu"] : List String).Nodup := by decide
  have entryNames : (["updated_at", "sample"] : List String).Nodup := by decide
  have sampleFields := Json.fields?_asRead
    [("timestamp", timeWritten), ("cpu", cpu.toJson)] sampleNames
  have entryFields := Json.fields?_asRead
    [("updated_at", updatedWritten),
      ("sample", .object [("timestamp", timeWritten), ("cpu", cpu.toJson)])]
    entryNames
  simp only [List.map_cons, List.map_nil] at sampleFields entryFields
  refine ⟨.object [("updated_at", updatedWritten),
    ("sample", .object [("timestamp", timeWritten), ("cpu", cpu.toJson)])],
    ?_, ?_⟩
  · simp only [toJson, StoredSample.toJson] at updatedWrites timeWrites ⊢
    rw [updatedWrites, timeWrites]
    rfl
  · simp only [ofJson?, entryFields, StoredSample.ofJson?, sampleFields,
      Option.bind_eq_bind, Option.bind_some, updatedRead, timeRead, cpuRead]
    rfl

/-- An entry with a sample from before the start of 1970 cannot be written. -/
theorem toJson_eq_error {entry : StoreEntry}
    (earlier : entry.sample.time.nanos < 0) :
    ∃ cut, entry.toJson = .error cut := by
  obtain ⟨cut, sampleCut⟩ : ∃ cut, entry.sample.toJson = .error cut := by
    rw [StoredSample.toJson, Time.toJson_of_neg earlier]
    exact ⟨_, rfl⟩
  rw [toJson, sampleCut]
  exact Json.objectOf_error (List.mem_cons_of_mem _ List.mem_cons_self)

end StoreEntry

/-! ## Maps -/

namespace KeyMap

variable {α β : Type}

/-- The map with every value changed. -/
def mapValues (change : α → β) (map : KeyMap α) : KeyMap β :=
  ⟨map.entries.map fun entry => (entry.1, change entry.2),
    map.sorted.map _ fun _ _ less => less⟩

theorem findIn_map (change : α → β) (key : String)
    (entries : List (String × α)) :
    findIn key (entries.map fun entry => (entry.1, change entry.2)) =
      (findIn key entries).map change := by
  induction entries with
  | nil => rfl
  | cons first rest ih =>
      rcases first with ⟨other, value⟩
      by_cases same : other = key
      · simp [findIn, same]
      · simp [findIn, same, ih]

@[simp]
theorem find?_mapValues (change : α → β) (map : KeyMap α) (key : String) :
    (map.mapValues change).find? key = (map.find? key).map change :=
  findIn_map change key map.entries

/-- Building a map from sorted entries puts them before what was there. -/
theorem find?_foldl_insert {entries : List (String × α)}
    (sorted : entries.Pairwise fun left right => left.1 < right.1)
    (start : KeyMap α) (key : String) :
    (entries.foldl (fun map entry => map.insert entry.1 entry.2) start).find?
        key =
      (findIn key entries).or (start.find? key) := by
  induction entries generalizing start with
  | nil => rfl
  | cons first rest ih =>
      rcases first with ⟨other, value⟩
      rw [List.pairwise_cons] at sorted
      rw [List.foldl_cons, ih sorted.2, find?_insert]
      by_cases same : other = key
      · subst same
        have absent : findIn other rest = none := by
          apply findIn_eq_none
          intro entry member equal
          have less := sorted.1 entry member
          rw [equal] at less
          exact String.lt_irrefl _ less
        simp [findIn, absent]
      · simp [findIn, same]

@[simp]
theorem ofList_entries (map : KeyMap α) : ofList map.entries = map := by
  refine ext_find? ?_
  intro key
  rw [ofList, find?_foldl_insert map.sorted, find?_empty, Option.or_none]
  rfl

end KeyMap

/-! ## Documents -/

namespace StoreEntries

/-- All entries come back from a document. -/
def Survive (entries : StoreEntries) : Prop :=
  ∀ key entry, entries.find? key = some entry → entry.Survives

/-- The entries as they come back from a document. -/
def reread (entries : StoreEntries) : StoreEntries :=
  entries.mapValues StoreEntry.reread

theorem toJson_eq_ok {listed : List (String × StoreEntry)}
    (survive : ∀ entry ∈ listed, entry.2.Survives) :
    ∃ members : List (String × WrittenJson),
      (listed.map fun entry => (entry.1, entry.2.toJson)) =
          (members.map fun member => (member.1, .ok member.2)) ∧
        (members.map fun member => (member.1, Json.asRead member.2)).mapM
            (fun member => do
              return (member.1, ← StoreEntry.ofJson? member.2)) =
          some (listed.map fun entry => (entry.1, entry.2.reread)) := by
  induction listed with
  | nil => exact ⟨[], rfl, rfl⟩
  | cons first listed ih =>
      rcases first with ⟨key, entry⟩
      rcases StoreEntry.ofJson?_asRead (survive (key, entry) List.mem_cons_self)
        with ⟨written, writes, reads⟩
      obtain ⟨members, same, read⟩ :=
        ih fun other member => survive other (List.mem_cons_of_mem _ member)
      refine ⟨(key, written) :: members, ?_, ?_⟩
      · rw [List.map_cons, List.map_cons, same]
        simp only [writes]
      · rw [List.map_cons, List.mapM_cons, read]
        simp only [reads]
        rfl

/-- The document of entries that all survive is complete, and read back. -/
theorem parse?_print {entries : StoreEntries} (survive : entries.Survive) :
    entries.print.2 = true ∧
      parse? entries.print.1 = some entries.reread := by
  have listed : ∀ entry ∈ entries.entries, entry.2.Survives := by
    intro entry member
    exact survive entry.1 entry.2 (KeyMap.mem_entries_iff.1 member)
  rcases toJson_eq_ok listed with ⟨members, same, read⟩
  have written : toJson entries = .ok (.object members) := by
    rw [toJson, same, Json.objectOf_ok]
  have again :
      (KeyMap.ofList
        (entries.entries.map fun entry => (entry.1, entry.2.reread))) =
          entries.reread :=
    KeyMap.ofList_entries entries.reread
  rw [print, written]
  refine ⟨rfl, ?_⟩
  simp only [Option.bind_eq_bind] at read
  simp only [Json.printUpTo, parse?, Json.parse_print, Option.bind_eq_bind,
    Option.bind_some, Json.asRead, ofJson?, Json.members?_membersAsRead, read]
  rw [again]
  rfl

/-- A sample from before the start of 1970 cuts the document off. -/
theorem print_incomplete {entries : StoreEntries} {key : String}
    {entry : StoreEntry} (found : entries.find? key = some entry)
    (earlier : entry.sample.time.nanos < 0) : entries.print.2 = false := by
  rcases StoreEntry.toJson_eq_error earlier with ⟨cut, entryCut⟩
  have member : (key, Except.error cut) ∈
      entries.entries.map fun entry => (entry.1, entry.2.toJson) :=
    List.mem_map.2
      ⟨(key, entry), KeyMap.mem_entries_iff.2 found, by rw [entryCut]⟩
  rcases Json.objectOf_error member with ⟨outer, written⟩
  rw [print, toJson, written]

end StoreEntries

end CgroupMeter
