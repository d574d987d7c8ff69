/-
Module: SocialApi.Proofs.FlightLocks
Purpose: Which calls put a lock key into flight_locks, which take it out again,
  and what a batch request loses when a key stays behind.
Trusted boundary: none
Main exports:
  advanceHold, flight_keys_have_holders, batch_covers_of_empty,
  batch_counts_complete, batch_counts_incomplete
-/
import SocialApi.Proofs.BatchCounts
import SocialApi.Proofs.GuardedSection

namespace SocialApi

open Process
open LikeService

/-! ### The lock protocol of one call -/

/-- The lock key a call has entered and not yet removed. -/
def advanceHold : Option String → (op : LikeOp) → op.Res → Option String
  | _, .flightEntry lockKey, _ => some lockKey
  | _, .flightRemove _, _ => none
  | holding, _, _ => holding

/-- A call enters a key when it holds none, and removes only the key it holds. -/
def permittedHold : Option String → LikeOp → Prop
  | holding, .flightEntry _ => holding = none
  | holding, .flightRemove lockKey => holding = some lockKey
  | _, _ => True

/-- While a call holds a key, its `COUNT(*)` query does not fail. -/
def possibleHold : Option String → (op : LikeOp) → op.Res → Prop
  | some _, .dbGetLikesCount _ _, answer => ∃ count, answer = .ok count
  | _, _, _ => True

/-- The program removes every lock key that it enters. -/
abbrev ReleasesLock {α : Type} (program : Service α) : Prop :=
  FromIdle advanceHold permittedHold possibleHold none program

theorem getLikeCountWithFallback_releases (contentType : ContentType)
    (contentId : ContentId) :
    ReleasesLock (getLikeCountWithFallback contentType contentId) := by
  simp only [getLikeCountWithFallback, getCacheLikeCount_bind, ReleasesLock,
    Program.obeys_perform]
  refine ⟨trivial, fun first _ => ?_⟩
  cases cachedCount first with
  | ok count => rfl
  | error miss =>
  simp only [Program.request_bind, Program.obeys_perform]
  refine ⟨rfl, fun lock _ => ⟨trivial, fun _ _ => ⟨trivial, fun second _ => ?_⟩⟩⟩
  cases cachedCount second with
  | ok count => exact ⟨rfl, fun _ _ => ⟨trivial, fun _ _ => rfl⟩⟩
  | error miss =>
  refine ⟨trivial, fun counted answered => ?_⟩
  obtain ⟨count, rfl⟩ := answered
  exact ⟨trivial, fun _ _ => ⟨rfl, fun _ _ => ⟨trivial, fun _ _ => rfl⟩⟩⟩

/-- Every call ends without a lock key of its own, as long as its query under
the lock does not fail. -/
theorem body_releases (setting : Setting) (call : LikeCall) :
    ReleasesLock (call.body setting) := by
  apply body_guarded _ getLikeCountWithFallback_releases
  intro op outside
  cases op with
  | flightEntry lockKey => exact outside.elim
  | flightRemove lockKey => exact outside.elim
  | _ => exact ⟨trivial, fun _ => rfl⟩

/-! ### The keys in flight during a run -/

section Runs

variable {setting : Setting}

/-- The steps of a run that leave no key behind: a batch request adds no key to
the map, and a query made while its call holds a key does not fail. -/
structure LocksReturned (trace : List (Event (likeService setting))) : Prop where
  noneAdded : ∀ event ∈ trace, ∀ lockKey, event.op = .flightInsert lockKey →
    event.before.flightLocks lockKey ≠ none
  queriesAnswered : ∀ before event after, trace = before ++ event :: after →
    ∀ contentType contentId, event.op = .dbGetLikesCount contentType contentId →
      controlAfter advanceHold event.thread none before ≠ none →
        event.env.fault = none

/-- A key is in flight after a step because it was before, or because the step
put it there. -/
theorem flightLocks_step {world : World} {op : LikeOp} {lockKey : String}
    (inFlight : world.flightLocksAfter op lockKey ≠ none) :
    op = .flightInsert lockKey ∨ op = .flightEntry lockKey ∨
      (op ≠ .flightRemove lockKey ∧ world.flightLocks lockKey ≠ none) := by
  cases op with
  | flightInsert other =>
      by_cases same : lockKey = other
      · exact .inl (by rw [same])
      · exact .inr (.inr ⟨by simp, by
          simpa [World.flightLocksAfter, same] using inFlight⟩)
  | flightEntry other =>
      by_cases same : lockKey = other
      · exact .inr (.inl (by rw [same]))
      · refine .inr (.inr ⟨by simp, ?_⟩)
        cases found : world.flightLocks other with
        | some lock => simpa [World.flightLocksAfter, found] using inFlight
        | none => simpa [World.flightLocksAfter, found, same] using inFlight
  | flightRemove other =>
      by_cases same : lockKey = other
      · simp [World.flightLocksAfter, same] at inFlight
      · refine .inr (.inr ⟨?_, ?_⟩)
        · rintro equal
          injection equal with equal
          exact same equal.symm
        · simpa [World.flightLocksAfter, same] using inFlight
  | _ => exact .inr (.inr ⟨by simp, inFlight⟩)

/-- A call goes on holding its key until it removes it. -/
private theorem advanceHold_keeps {lockKey : String} {op : LikeOp} {res : op.Res}
    (permitted : permittedHold (some lockKey) op)
    (kept : op ≠ .flightRemove lockKey) :
    advanceHold (some lockKey) op res = some lockKey := by
  cases op with
  | flightEntry other => cases permitted
  | flightRemove other => exact absurd (by rw [Option.some.inj permitted]) kept
  | _ => rfl

/-- Every key in flight has been entered by a call that still holds it. -/
theorem flight_keys_have_holders {first last : World}
    {trace : List (Event (likeService setting))}
    (fresh : ∀ lockKey, first.flightLocks lockKey = none)
    (replays : Replays first trace last)
    (permitted : ∀ before event after, trace = before ++ event :: after →
      permittedHold (controlAfter advanceHold event.thread none before) event.op)
    (noneAdded : ∀ event ∈ trace, ∀ lockKey, event.op = .flightInsert lockKey →
      event.before.flightLocks lockKey ≠ none)
    {lockKey : String} (inFlight : last.flightLocks lockKey ≠ none) :
    ∃ i, controlAfter advanceHold i none trace = some lockKey := by
  induction trace using List.reverseRecOn generalizing last with
  | nil =>
      obtain rfl := replays
      exact absurd (fresh lockKey) inFlight
  | append_singleton trace event inductionHypothesis =>
      obtain ⟨middle, earlier, found, after, spawned, handled, reached⟩ :=
        replays_append.mp replays
      obtain rfl := reached
      rw [(World.handle_after handled).1] at inFlight
      have holder : middle.flightLocks lockKey ≠ none →
          event.op ≠ .flightRemove lockKey →
          ∃ i, controlAfter advanceHold i none (trace ++ [event]) = some lockKey := by
        intro already kept
        obtain ⟨i, holds⟩ := inductionHypothesis earlier
          (fun before performed rest split =>
            permitted before performed (rest ++ [event]) (by simp [split]))
          (fun performed member => noneAdded performed (by simp [member])) already
        refine ⟨i, ?_⟩
        by_cases same : event.thread = i
        · subst same
          rw [controlAfter_concat_self, holds]
          exact advanceHold_keeps (holds ▸ permitted trace event [] rfl) kept
        · rw [controlAfter_concat_other _ _ same, holds]
      rcases flightLocks_step inFlight with added | entered | ⟨kept, already⟩
      · refine holder ?_ (by rw [added]; simp)
        exact found ▸ noneAdded event (by simp) lockKey added
      · refine ⟨event.thread, ?_⟩
        rw [controlAfter_concat_self]
        obtain ⟨i, call, env, op, res, before⟩ := event
        obtain rfl : op = .flightEntry lockKey := entered
        rfl
      · exact holder already kept

/-- When every call has come back, no key is in flight. -/
theorem flightLocks_empty_of_done {world : World} {calls : List LikeCall}
    {trace : List (Event (likeService setting))} {last : Pool (likeService setting)}
    (fresh : ∀ lockKey, world.flightLocks lockKey = none)
    (run : Run (Pool.start world calls) trace last) (done : last.Done)
    (returned : LocksReturned trace) (lockKey : String) :
    last.state.flightLocks lockKey = none := by
  have possible : ∀ before event after, trace = before ++ event :: after →
      possibleHold (controlAfter advanceHold event.thread none before)
        event.op event.res := by
    intro before event after split
    obtain ⟨middle, _, found, reached, spawned, handled, _⟩ :=
      replays_append.mp (split ▸ run.replays)
    have answered := returned.queriesAnswered before event after split
    obtain ⟨i, call, env, op, res, world⟩ := event
    cases op with
    | dbGetLikesCount contentType contentId =>
        cases holding : controlAfter advanceHold i none before with
        | none => trivial
        | some key =>
            have healthy : env.fault = none :=
              answered contentType contentId rfl (by simp [holding])
            simp only [World.handle, World.serve, Option.some.injEq,
              Prod.mk.injEq] at handled
            exact ⟨_, by rw [← handled.1, healthy]; rfl⟩
    | _ => cases controlAfter advanceHold i none before <;> trivial
  obtain ⟨governed, permitted⟩ := Run.obeys (M := likeService setting)
    (body_releases setting) (fun _ _ free => free) run possible
  by_contra inFlight
  obtain ⟨i, holds⟩ := flight_keys_have_holders fresh run.replays permitted
    returned.noneAdded inFlight
  have bound : i < last.threads.length := by
    by_contra outside
    have untouched : controlAfter advanceHold i none trace = none :=
      controlAfter_untouched fun event member same =>
        outside (same ▸ governed.known event member)
    rw [untouched] at holds
    cases holds
  obtain ⟨reply, ended⟩ := done _ (List.getElem_mem bound)
  have free := governed.obeys i _ (List.getElem?_eq_getElem bound)
  rw [ended, holds] at free
  cases free

end Runs

/-! ### A batch request that runs alone -/

/-- A batch request that runs alone answers every requested pair, if it answers
at all. -/
def BatchCovers (setting : Setting) (world : World) : Prop :=
  ∀ (items : List ContentItem) environment results after spawned,
    items.length ≤ 100 →
    (getLikesCountBatch items).run (World.handle setting) environment world =
      some (.ok results, after, spawned) →
    ∀ item ∈ items, ∃ count ∈ results,
      count.contentType = item.contentType ∧ count.contentId = item.contentId

/-- With no key in flight, a batch request loses no item. -/
theorem batch_covers_of_empty {setting : Setting} {world : World}
    (empty : ∀ lockKey, world.flightLocks lockKey = none) :
    BatchCovers setting world := by
  intro items environment results after spawned _ ran item member
  obtain ⟨fetched, _, _, members, rfl⟩ := getLikesCountBatch_alone empty ran
  cases found : countsFound environment items world item.contentId with
  | some count =>
      have served : (⟨item.contentType, item.contentId, count⟩ : ContentCount) ∈
          cachedResults (countsFound environment items world) items :=
        mem_cachedResults.mpr ⟨member, found⟩
      exact ⟨_, List.mem_append_left _ served, rfl, rfl⟩
  | none =>
      have missing : item ∈ missingFrom (countsFound environment items world) items :=
        List.mem_filter.mpr ⟨member, by rw [found]; rfl⟩
      refine ⟨countedIn world.likes item, List.mem_append_right _ ?_, rfl, rfl⟩
      apply List.mem_map_of_mem
      exact (anyOrder_perm _ _).mem_iff.mpr ((members item).mpr missing)

/-! ### Whole runs -/

/-- In every run whose steps leave no key behind, however its calls and tasks
interleave and whatever fails or expires, no key is in flight at the end and no
batch request that then runs alone loses an item. -/
theorem batch_counts_complete {setting : Setting} {world : World}
    {calls : List LikeCall} {trace : List (Event (likeService setting))}
    {last : Pool (likeService setting)}
    (fresh : ∀ lockKey, world.flightLocks lockKey = none)
    (run : Run (Pool.start world calls) trace last) (done : last.Done)
    (returned : LocksReturned trace) :
    (∀ lockKey, last.state.flightLocks lockKey = none) ∧
      BatchCovers setting last.state :=
  have empty := flightLocks_empty_of_done fresh run done returned
  ⟨empty, batch_covers_of_empty empty⟩

/-- A check that is enough for `LocksReturned`. -/
def locksReturned? {setting : Setting} (trace : List (Event (likeService setting))) :
    Bool :=
  trace.all fun event => match event.op with
    | .flightInsert lockKey => (event.before.flightLocks lockKey).isSome
    | .dbGetLikesCount _ _ => event.env.fault.isNone
    | _ => true

theorem LocksReturned.of_check {setting : Setting}
    {trace : List (Event (likeService setting))}
    (checked : locksReturned? trace = true) : LocksReturned trace where
  noneAdded := by
    intro event member lockKey inserts
    have ok := List.all_eq_true.mp checked event member
    rw [inserts] at ok
    exact Option.isSome_iff_ne_none.mp ok
  queriesAnswered := by
    intro before event after split contentType contentId queries _
    have ok := List.all_eq_true.mp checked event (by simp [split])
    rw [queries] at ok
    exact Option.isNone_iff_eq_none.mp ok

/-- The content of the examples. -/
def somePost : ContentItem := ⟨⟨"post"⟩, ⟨1⟩⟩

/-- A count request for an uncached item goes through the lock and gives it
back. -/
theorem batch_counts_complete_after_cold_count :
    ∃ trace last, Run (M := likeService .reference)
        (Pool.start (World.new .empty .empty 0)
          [.getLikeCount somePost.contentType somePost.contentId]) trace last ∧
      trace.length = 8 ∧ (∀ lockKey, last.state.flightLocks lockKey = none) ∧
      BatchCovers .reference last.state := by
  obtain ⟨trace, last, run, passed⟩ := Run.exists_of_exec (M := likeService .reference)
    (List.replicate 8 (0, .calm))
    (Pool.start (World.new .empty .empty 0)
      [.getLikeCount somePost.contentType somePost.contentId])
    (fun trace last => last.done? && locksReturned? trace && trace.length == 8)
    (by decide +kernel)
  simp only [Bool.and_eq_true, beq_iff_eq] at passed
  obtain ⟨⟨done, checked⟩, size⟩ := passed
  exact ⟨trace, last, run, size, batch_counts_complete (fun _ => rfl) run
    (Pool.done_of_done? done) (.of_check checked)⟩

/-- The schedule of the next theorem: a batch request, then its task. -/
def coldBatch : List (Nat × Surroundings) :=
  List.replicate 5 (0, .calm) ++ [(1, .calm)]

/-- A batch request for an uncached item leaves its key in the map; once the
count has expired, the next batch request for the item answers nothing. -/
theorem batch_counts_incomplete :
    ∃ trace last, Run (M := likeService .reference)
        (Pool.start (World.new .empty .empty 0) [.getLikesCountBatch [somePost]])
        trace last ∧
      last.Done ∧
      last.state.flightLocks
        (formatLockKey somePost.contentType somePost.contentId) ≠ none ∧
      ¬ BatchCovers .reference last.state := by
  let later : Nat → Surroundings := fun _ => { Surroundings.calm with
    expired := [RedisLikeRepository.formatCountKey somePost.contentType
      somePost.contentId] }
  obtain ⟨trace, last, run, passed⟩ := Run.exists_of_exec (M := likeService .reference)
    coldBatch
    (Pool.start (World.new .empty .empty 0) [.getLikesCountBatch [somePost]])
    (fun _ last => last.done? &&
      (last.state.flightLocks
        (formatLockKey somePost.contentType somePost.contentId)).isSome &&
      ((getLikesCountBatch [somePost]).run (World.handle .reference) later
        last.state).any fun reached => match reached.1 with
          | .ok counts => counts.isEmpty
          | .error _ => false)
    (by decide +kernel)
  simp only [Bool.and_eq_true] at passed
  obtain ⟨⟨done, inFlight⟩, lost⟩ := passed
  refine ⟨trace, last, run, Pool.done_of_done? done,
    Option.isSome_iff_ne_none.mp inFlight, fun covers => ?_⟩
  obtain ⟨⟨answer, after, spawned⟩, ran, empty⟩ := (Option.any_eq_true _ _).mp lost
  cases answer with
  | error e => cases empty
  | ok counts =>
      obtain ⟨count, member, _⟩ := covers [somePost] later counts after spawned (by decide)
        ran somePost (by simp)
      rw [List.isEmpty_iff.mp empty] at member
      cases member

end SocialApi
