import CgroupMeter.Proofs.Program.Interleaving
import CgroupMeter.Proofs.Sampling.Effect
import CgroupMeter.Proofs.Sampling.History

/-!
# Calls that are made at the same time

Calls for different containers can be made at the same time on one store, each
request of theirs being answered at once: each call yields what it yields
alone, and the store is left as if the calls were made one after another, in
any order.

A call only asks its store for the key of its own container, so the requests
of two such calls do not notice each other, and the general law of programs
that take turns applies.
-/

namespace CgroupMeter

/-! ## Requests for different keys -/

/-- A sample store that keeps its samples apart: changes under different keys
can be made in either order. -/
class KeywiseStore (Store : Type) [SampleStore Store] : Prop
    extends LawfulSampleStore Store where
  put_put : ∀ (store : Store) (now later : Time) {key other : String}
    (sample another : StoredSample), key ≠ other →
      SampleStore.put (SampleStore.put store later other another) now key sample =
        SampleStore.put (SampleStore.put store now key sample) later other another
  put_erase : ∀ (store : Store) (now : Time) {key other : String}
    (sample : StoredSample), key ≠ other →
      SampleStore.put (SampleStore.erase store other) now key sample =
        SampleStore.erase (SampleStore.put store now key sample) other
  erase_erase : ∀ (store : Store) (key other : String),
    SampleStore.erase (SampleStore.erase store other) key =
      SampleStore.erase (SampleStore.erase store key) other

namespace KeyMap

variable {α : Type} (map : KeyMap α) {key other : String}

theorem insert_insert (value another : α) (different : key ≠ other) :
    (map.insert other another).insert key value =
      (map.insert key value).insert other another := by
  ext1 name
  by_cases first : key = name
  · simp [first, (first ▸ different).symm]
  · simp [first]

theorem insert_erase (value : α) (different : key ≠ other) :
    (map.erase other).insert key value =
      (map.insert key value).erase other := by
  ext1 name
  by_cases first : key = name
  · simp [first, (first ▸ different).symm]
  · simp [first]

theorem erase_erase (key other : String) :
    (map.erase other).erase key = (map.erase key).erase other := by
  ext1 name
  by_cases first : key = name
  · simp [first]
  · simp [first]

end KeyMap

instance : KeywiseStore MemoryStore where
  put_put store _ _ _ _ sample another different :=
    KeyMap.insert_insert store sample another different
  put_erase store _ _ _ sample different :=
    KeyMap.insert_erase store sample different
  erase_erase store key other := KeyMap.erase_erase store key other

instance : KeywiseStore FileStore where
  put_put store now later _ _ sample another different := by
    have entries := KeyMap.insert_insert store.entries (⟨now, sample⟩ : StoreEntry)
      ⟨later, another⟩ different
    simp only [SampleStore.put, entries]
  put_erase store now _ _ sample different := by
    have entries :=
      KeyMap.insert_erase store.entries (⟨now, sample⟩ : StoreEntry) different
    simp only [SampleStore.put, SampleStore.erase, entries]
  erase_erase store key other := by
    simp only [SampleStore.erase, KeyMap.erase_erase store.entries key other]

/-- The key that a request asks the store for. -/
def SamplingRequest.key? : SamplingRequest → Option String
  | .find key => some key
  | .put key _ => some key
  | .erase key => some key
  | _ => none

namespace Circumstances

variable {Store : Type} [SampleStore Store]

/-- What a request does to a store under one key. -/
inductive Touches (Store : Type) [SampleStore Store] (key : String) :
    (Store → Store) → Prop where
  | nothing : Touches Store key fun store => store
  | put (now : Time) (sample : StoredSample) :
      Touches Store key fun store => SampleStore.put store now key sample
  | erase : Touches Store key fun store => SampleStore.erase store key

/-- A request that asks for no key is no matter of the store. -/
theorem answer_of_keyless (Store : Type) [SampleStore Store]
    (circumstances : Circumstances) {asked : SamplingRequest}
    (keyless : asked.key? = none) :
    ∃ given, ∀ store : Store,
      circumstances.answer asked store = (given, store) := by
  cases asked with
  | inspect name => exact ⟨circumstances.inspection, fun _ => rfl⟩
  | fetch inspection => exact ⟨circumstances.raw, fun _ => rfl⟩
  | readClock => exact ⟨circumstances.now, fun _ => rfl⟩
  | report made => exact ⟨(), fun _ => rfl⟩
  | find key => cases keyless
  | put key sample => cases keyless
  | erase key => cases keyless

/-- The answer to a request for a key depends on what is stored there, and so
does what it changes. -/
theorem answer_of_key (Store : Type) [SampleStore Store]
    (circumstances : Circumstances) {asked : SamplingRequest} {key : String}
    (keyed : asked.key? = some key) :
    ∃ (reply : Option StoredSample → asked.Answer) (change : Store → Store),
      Touches Store key change ∧ ∀ store : Store,
        circumstances.answer asked store =
          (reply (SampleStore.find? store key), change store) := by
  cases asked with
  | inspect name => cases keyed
  | fetch inspection => cases keyed
  | readClock => cases keyed
  | report made => cases keyed
  | find other =>
      cases keyed
      cases fault : circumstances.findFault with
      | none => exact ⟨.ok, _, .nothing, fun _ => by simp [answer, serve, fault]⟩
      | some error =>
          exact ⟨fun _ => .error error, _, .nothing,
            fun _ => by simp [answer, serve, fault]⟩
  | put other sample =>
      cases keyed
      cases fault : circumstances.putFault with
      | none =>
          exact ⟨fun _ => .ok (), _, .put circumstances.now sample,
            fun _ => by simp [answer, serve, fault]⟩
      | some error =>
          exact ⟨fun _ => .error error, _, .nothing,
            fun _ => by simp [answer, serve, fault]⟩
  | erase other =>
      cases keyed
      cases fault : circumstances.eraseFault with
      | none =>
          exact ⟨fun _ => .ok (), _, .erase,
            fun _ => by simp [answer, serve, fault]⟩
      | some error =>
          exact ⟨fun _ => .error error, _, .nothing,
            fun _ => by simp [answer, serve, fault]⟩

section Keywise

variable [KeywiseStore Store] {key other : String}
    {change another : Store → Store}

theorem Touches.find? (touches : Touches Store key change)
    (different : key ≠ other) (store : Store) :
    SampleStore.find? (change store) other = SampleStore.find? store other := by
  cases touches with
  | nothing => rfl
  | put now sample =>
      rw [LawfulSampleStore.find?_put, if_neg different]
  | erase => rw [LawfulSampleStore.find?_erase, if_neg different]

theorem Touches.comm (touches : Touches Store key change)
    (touchesOther : Touches Store other another) (different : key ≠ other)
    (store : Store) : change (another store) = another (change store) := by
  cases touches with
  | nothing => rfl
  | put now sample =>
      cases touchesOther with
      | nothing => rfl
      | put later next =>
          exact KeywiseStore.put_put store now later sample next different
      | erase => exact KeywiseStore.put_erase store now sample different
  | erase =>
      cases touchesOther with
      | nothing => rfl
      | put later next =>
          exact (KeywiseStore.put_erase store later next different.symm).symm
      | erase => exact KeywiseStore.erase_erase store key other

/-- Requests that do not ask for the same key do not notice each other. -/
theorem commutes_of_keys (first second : Circumstances)
    {asked request : SamplingRequest}
    (different : ∀ key, asked.key? = some key → request.key? ≠ some key) :
    @Answering.Commutes _ _ Store first.answer second.answer asked
      request := by
  cases keyed : asked.key? with
  | none =>
      rcases first.answer_of_keyless Store keyed with ⟨given, same⟩
      exact ⟨fun store => by rw [same, same], fun store => by rw [same],
        fun store => by rw [same, same]⟩
  | some key =>
      cases keyedToo : request.key? with
      | none =>
          rcases second.answer_of_keyless Store keyedToo with
            ⟨given, same⟩
          exact ⟨fun store => by rw [same], fun store => by rw [same, same],
            fun store => by rw [same, same]⟩
      | some other =>
          have apart : key ≠ other := by
            rintro rfl
            exact different key keyed keyedToo
          rcases first.answer_of_key Store keyed with
            ⟨reply, change, touches, same⟩
          rcases second.answer_of_key Store keyedToo with
            ⟨replyToo, another, touchesToo, sameToo⟩
          refine ⟨?_, ?_, ?_⟩
          · intro store
            rw [same, same, sameToo]
            exact congrArg reply (touchesToo.find? apart.symm store)
          · intro store
            rw [sameToo, sameToo, same]
            exact congrArg replyToo (touches.find? apart store)
          · intro store
            rw [same, same, sameToo, sameToo]
            exact touches.comm touchesToo apart store

end Keywise

/-! ## The key of a call -/

/-- The key of the container that a call is about, if it is inspected. -/
def key? (circumstances : Circumstances) : Option String :=
  circumstances.inspection.toOption.map fun inspection => inspection.id.text

/-- A call asks its store for the key of its own container only. -/
theorem within_own_key (remembered : Duration) (circumstances : Circumstances)
    (name : String) :
    (Sampling.sample remembered name).Within
      (fun asked => ∀ key, asked.key? = some key →
        circumstances.key? = some key)
      (circumstances.MayAnswer Store) := by
  have keyed {inspection : Inspection}
      (inspected : circumstances.inspection = .ok inspection) (key : String)
      (own : some inspection.id.text = some key) :
      circumstances.key? = some key := by
    simp [key?, inspected, Except.toOption, ← own]
  have keyless {asked : SamplingRequest} (none : asked.key? = none) :
      ∀ key, asked.key? = some key → circumstances.key? = some key := by
    simp [none]
  refine within_sample remembered name (keyless rfl) ?_ ?_
  · intro inspection inspected _
    exact within_ended remembered inspection (keyless rfl) (keyed inspected)
      fun _ => keyless rfl
  · intro inspection inspected _
    exact within_sampleRunning inspection (keyless rfl) (keyed inspected)
      (fun _ _ _ => keyed inspected) fun _ => keyless rfl

end Circumstances

theorem ContainerId.eq_of_text {id other : ContainerId}
    (same : id.text = other.text) : id = other := by
  obtain ⟨text, valid⟩ := id
  obtain ⟨again, validToo⟩ := other
  simp only at same
  subst same
  rfl

/-! ## Calls in turn and at the same time -/

namespace SamplingHistory

/-- The containers of two calls are not the same, as far as they are
inspected. -/
def Call.Apart (first second : Call) : Prop :=
  ∀ inspection other, first.circumstances.inspection = .ok inspection →
    second.circumstances.inspection = .ok other → inspection.id ≠ other.id

section Runs

variable {Store : Type} [SampleStore Store]

/-- A call that has not begun. -/
def Call.party (remembered : Duration) (call : Call) :
    Party SamplingRequest SamplingRequest.Answer Store
      (Except SamplingError MetricsSample) :=
  ⟨call.circumstances.answer, Sampling.sample remembered call.name⟩

/-- What is noted of the requests does not matter to a program. -/
theorem finish_eq_runFrom {α : Type} (circumstances : Circumstances)
    (program : Sampling α) (state : Aftermath Store) :
    Party.finish ⟨circumstances.answer, program⟩ state.store =
      ((circumstances.runFrom program state).1,
        (circumstances.runFrom program state).2.store) := by
  induction program generalizing state with
  | done value => rfl
  | ask asked next ih =>
      exact ih _ ⟨(circumstances.answer asked state.store).2,
        state.asked ++ [asked]⟩

theorem finish_party (remembered : Duration) (call : Call) (store : Store) :
    (call.party remembered).finish store =
      ((makeCall remembered call store).1.result,
        (makeCall remembered call store).2) :=
  finish_eq_runFrom call.circumstances _ ⟨store, []⟩

/-- Calls that are made one after another are parties in turn. -/
theorem makeCalls_eq_inTurn (remembered : Duration) (calls : List Call)
    (store : Store) :
    makeCalls remembered calls store =
      (List.zipWith Record.mk calls
          (Party.inTurn (calls.map (Call.party remembered)) store).1,
        (Party.inTurn (calls.map (Call.party remembered)) store).2) := by
  induction calls generalizing store with
  | nil => rfl
  | cons call calls ih =>
      simp only [makeCalls, ih, List.map_cons, Party.inTurn_cons, finish_party,
        List.zipWith_cons_cons]
      rfl

variable [KeywiseStore Store]

theorem Call.Apart.independent {first second : Call}
    (apart : first.Apart second) (remembered : Duration) :
    (first.party remembered).Independent
      (second.party remembered :
        Party SamplingRequest SamplingRequest.Answer Store _) := by
  refine ⟨_, _, first.circumstances.within_own_key remembered first.name,
    second.circumstances.within_own_key remembered second.name, ?_⟩
  intro asked request own ownToo
  apply Circumstances.commutes_of_keys
  intro key keyed keyedToo
  have mine := own key keyed
  have yours := ownToo key keyedToo
  unfold Circumstances.key? at mine yours
  cases inspected : first.circumstances.inspection with
  | error error => simp [inspected, Except.toOption] at mine
  | ok inspection =>
      cases inspectedToo : second.circumstances.inspection with
      | error error => simp [inspectedToo, Except.toOption] at yours
      | ok other =>
          simp only [inspected, inspectedToo, Except.toOption, Option.map_some,
            Option.some.injEq] at mine yours
          apply apart inspection other inspected inspectedToo
          exact ContainerId.eq_of_text (mine.trans yours.symm)

/-- Calls for different containers that are made at the same time come to an
end in whatever order their requests are answered.  Then each call has yielded
what it yields alone, and the store is left as by the calls made one after
another in any order, each of which yields the same too. -/
theorem interleaved_calls_do_as_in_turn (remembered : Duration)
    {calls : List Call} (apart : calls.Pairwise Call.Apart) (start : Store) :
    let begun := (calls.map (Call.party remembered), start)
    Acc (fun later earlier => Party.Step earlier later) begun ∧
      ∀ reached, Relation.ReflTransGen Party.Step begun reached →
        (∀ later, ¬ Party.Step reached later) →
          Party.Finished reached.1
            (calls.map fun call => (makeCall remembered call start).1.result) ∧
          ∀ order : List Call, order.Perm calls →
            makeCalls remembered order start =
              (order.map fun call => (makeCall remembered call start).1,
                reached.2) := by
  intro begun
  refine ⟨Party.wellFounded_step.apply begun, ?_⟩
  intro reached run stuck
  have independent : begun.1.Pairwise Party.Independent :=
    List.pairwise_map.2 (apart.imp fun apart => apart.independent remembered)
  rcases Party.run_eq_inTurn independent run stuck with ⟨finished, inTurn⟩
  constructor
  · simpa [begun, Function.comp_def, finish_party] using finished
  · intro order rearranged
    have same := inTurn _ (rearranged.map (Call.party remembered))
    rw [makeCalls_eq_inTurn, same]
    simp only [List.map_map, Function.comp_def, finish_party,
      List.zipWith_map_right, List.zipWith_self]
    rfl

end Runs

/-! ## Two calls at the same time -/

/-- A container that ended at the start of 1970. -/
def endedMail : Inspection :=
  ⟨⟨"mail", by decide⟩, .exited, 0, some ⟨0⟩, 0, ⟨0, 0, 0⟩⟩

/-- A call that finds that it ended too long ago. -/
def dropMail : Call :=
  ⟨"8", ⟨.ok endedMail, .error .nothingMounted, ⟨10⟩, none, none, none⟩⟩

/-- The calls take turns; made the other way round, they yield the same. -/
theorem sample_and_drop_in_alternation :
    let former := (webSampleAt ⟨0⟩ 10).stored
    let start : MemoryStore :=
      (KeyMap.empty.insert "web" former).insert "mail" former
    let web := sampleWeb (webSampleAt ⟨9⟩ 30) none
    let sample := MetricsSample.derive runningWeb (webSampleAt ⟨9⟩ 30) former
    let dropped := SamplingError.expired endedMail.id ⟨10⟩
    let reached := Party.takeTurns [0, 1, 0, 1, 0, 1, 0, 1]
      ([web, dropMail].map (Call.party ⟨5⟩)) start
    Party.Finished reached.1 [.ok sample, .error dropped] ∧
      makeCalls ⟨5⟩ [dropMail, web] start =
        ([⟨dropMail, .error dropped⟩, ⟨web, .ok sample⟩], reached.2) := by
  intro former start web sample dropped reached
  have apart : [web, dropMail].Pairwise Call.Apart := by
    refine List.pairwise_pair.2 ?_
    rintro _ _ ⟨⟩ ⟨⟩
    decide
  have finished :
      Party.Finished reached.1 [.ok sample, .error dropped] :=
    .cons rfl (.cons rfl .nil)
  rcases (interleaved_calls_do_as_in_turn ⟨5⟩ apart start).2 reached
    (Party.run_takeTurns _ _ _) (finished.stuck reached.2) with ⟨ended, inTurn⟩
  exact ⟨ended, inTurn [dropMail, web] (List.Perm.swap _ _ _)⟩

end SamplingHistory

end CgroupMeter
