/-
Module: SocialApi.Proofs.FlightExclusion
Purpose: When the calls of both count paths keep out of each other's queries for one item.
Trusted boundary: none
Main exports:
  CountFlight, counts_fly, FetchedApart, KeepsEntry, Excluded, excluded_step, excluded_run,
  fetched_apart
-/
import SocialApi.Proofs.ColdCount

namespace SocialApi

open Process
open LikeService

/-! ### Both count paths -/

/-- Where a call stands in the section guarded by `flight_locks`.  A batch claims the keys
that it has put into the map, until its query is answered; a call of `get_like_count` goes by
the mutex under its key. -/
inductive CountFlight where
  | claiming (lockKeys : List String)
  | waiting (lockKey : String) (lock : Nat)
  | checking (lockKey : String) (lock : Nat)
  | fetching (lockKey : String) (lock : Nat)
  | leaving (lock : Nat)

/-- The calls that count, and the task that a batch leaves behind. -/
def LikeCall.Counts : LikeCall → Prop
  | .getLikeCount _ _ | .getLikesCountBatch _ | .rehydrate _ _ _ => True
  | _ => False

namespace CountFlight

/-- Every call starts with no claim. -/
def initial (_ : LikeCall) : CountFlight := .claiming []

def advance : CountFlight → (op : LikeOp) → op.Res → CountFlight
  | .claiming lockKeys, .flightInsert lockKey, isNone =>
      if isNone then .claiming (lockKeys ++ [lockKey]) else .claiming lockKeys
  | .claiming _, .dbGetCountsBatch _, _ => .claiming []
  | .claiming _, .flightEntry lockKey, lock => .waiting lockKey lock
  | .waiting lockKey lock, .mutexLock _, _ => .checking lockKey lock
  | .checking lockKey lock, .cacheGetCount _ _, answer =>
      match cachedCount answer with
      | .ok _ => .leaving lock
      | .error _ => .fetching lockKey lock
  | .fetching _ lock, .dbGetLikesCount _ _, _ => .leaving lock
  | .leaving _, .mutexUnlock _, _ => .claiming []
  | flight, _, _ => flight

/-- A batch asks for what it has claimed, and a call of `get_like_count` takes the steps of
its stage. -/
def Permitted : CountFlight → LikeOp → Prop
  | .claiming _, .mutexLock _ | .claiming _, .mutexUnlock _ => False
  | .claiming _, .flightRemove _ | .claiming _, .dbGetLikesCount _ _ => False
  | .claiming lockKeys, .flightEntry _ => lockKeys = []
  | .claiming lockKeys, .dbGetCountsBatch items =>
      ∀ item ∈ items, formatLockKey item.contentType item.contentId ∈ lockKeys
  | .claiming _, .spawn task => task.Counts
  | .claiming _, _ => True
  | .waiting _ lock, op => op = .mutexLock lock
  | .checking _ _, op => ∃ contentType contentId, op = .cacheGetCount contentType contentId
  | .fetching lockKey _, op => ∃ contentType contentId,
      op = .dbGetLikesCount contentType contentId ∧
        lockKey = formatLockKey contentType contentId
  | .leaving lock, op => op = .mutexUnlock lock ∨ (∃ lockKey, op = .flightRemove lockKey) ∨
      ∃ contentType contentId count, op = .cacheSetValue contentType contentId count

/-- No call that counts starts another body. -/
def Final (flight : CountFlight) (outcome : LikeCall ⊕ LikeReply) : Prop :=
  flight = .claiming [] ∧ ∃ reply, outcome = .inr reply

/-- The call is on its way to a query for the item of the key, from its claim or from its
second miss. -/
def Fetches (key : String) : CountFlight → Prop
  | .claiming lockKeys => key ∈ lockKeys
  | .fetching lockKey _ => lockKey = key
  | _ => False

/-- The executable form of `Fetches`. -/
def fetches? (key : String) : CountFlight → Bool
  | .claiming lockKeys => lockKeys.contains key
  | .fetching lockKey _ => lockKey == key
  | _ => false

theorem fetches?_eq_true {key : String} {flight : CountFlight} :
    flight.fetches? key = true ↔ flight.Fetches key := by
  cases flight with
  | claiming lockKeys => exact List.contains_iff_mem
  | fetching lockKey lock => exact beq_iff_eq
  | _ => exact ⟨nofun, False.elim⟩

/-- The mutex that a call holds. -/
def owns : CountFlight → Option Nat
  | .checking _ lock | .fetching _ lock | .leaving lock => some lock
  | .claiming _ | .waiting _ _ => none

end CountFlight

section Flights

open CountFlight

theorem getLikeCountWithFallback_flies (contentType : ContentType) (contentId : ContentId) :
    (getLikeCountWithFallback contentType contentId).Obeys advance Permitted
      (fun _ _ _ => True) (fun flight _ => flight = .claiming []) (.claiming []) := by
  simp only [getLikeCountWithFallback, getCacheLikeCount_bind, Program.obeys_perform]
  refine ⟨trivial, fun first _ => ?_⟩
  cases cachedCount first with
  | ok count => rfl
  | error miss =>
  refine ⟨rfl, fun lock _ => ⟨rfl, fun _ _ => ⟨⟨_, _, rfl⟩, fun second _ => ?_⟩⟩⟩
  simp only [advance]
  cases cachedCount second with
  | ok count => exact ⟨.inr (.inl ⟨_, rfl⟩), fun _ _ => ⟨.inl rfl, fun _ _ => rfl⟩⟩
  | error miss =>
  refine ⟨⟨_, _, rfl, rfl⟩, fun counted _ => ?_⟩
  cases counted with
  | error e => exact ⟨.inl rfl, fun _ _ => rfl⟩
  | ok count =>
      refine ⟨.inr (.inr ⟨_, _, _, rfl⟩), fun _ _ => ⟨.inr (.inl ⟨_, rfl⟩), fun _ _ => ?_⟩⟩
      exact ⟨.inl rfl, fun _ _ => rfl⟩

theorem getLikeCount_flies (contentType : ContentType) (contentId : ContentId) :
    (getLikeCount contentType contentId).Obeys advance Permitted
      (fun _ _ _ => True) (fun flight _ => flight = .claiming []) (.claiming []) := by
  apply (getLikeCountWithFallback_flies contentType contentId).bind
  rintro _ result rfl
  cases result <;> rfl

/-- The lock keys of the items of a batch. -/
def lockKeysOf (items : List ContentItem) : List String :=
  items.map fun item => formatLockKey item.contentType item.contentId

/-- The second loop of a batch claims the keys of the items it is going to fetch. -/
theorem lockMissing_flies (missingItems toFetchFromDb : List ContentItem) :
    (lockMissing missingItems (lockKeysOf toFetchFromDb) toFetchFromDb).Obeys advance
      Permitted (fun _ _ _ => True)
      (fun flight locked => flight = .claiming (lockKeysOf locked.toFetchFromDb))
      (.claiming (lockKeysOf toFetchFromDb)) := by
  induction missingItems generalizing toFetchFromDb with
  | nil => rfl
  | cons item missingItems inductionHypothesis =>
      simp only [lockMissing, Program.request_bind, Program.obeys_perform]
      refine ⟨trivial, fun isNone _ => ?_⟩
      cases isNone with
      | false => exact inductionHypothesis toFetchFromDb
      | true => simpa [advance, lockKeysOf] using inductionHypothesis (toFetchFromDb ++ [item])

theorem getLikesCountBatch_flies (items : List ContentItem) :
    (getLikesCountBatch items).Obeys advance Permitted
      (fun _ _ _ => True) (fun flight _ => flight = .claiming []) (.claiming []) := by
  unfold getLikesCountBatch
  split
  · rfl
  simp only [Program.request_bind, Program.obeys_perform]
  refine ⟨trivial, fun answer _ => ?_⟩
  split
  · rfl
  apply (lockMissing_flies _ []).bind
  rintro _ locked rfl
  split
  · next nothing =>
      rw [List.isEmpty_iff.mp nothing]
      rfl
  · refine ⟨fun item => List.mem_map_of_mem, fun fetched _ => ?_⟩
    cases fetched with
    | error e => rfl
    | ok dbCounts => exact ⟨trivial, fun _ _ => ⟨trivial, fun _ _ => rfl⟩⟩

/-- Every call that counts goes through its stages and ends with no claim. -/
theorem counts_fly (setting : Setting) (call : LikeCall) (counts : call.Counts) :
    (call.body setting).Obeys advance Permitted (fun _ _ _ => True) Final
      (CountFlight.initial call) := by
  have wrapped : ∀ {α : Type} {program : Service α} (wrap : α → LikeReply),
      program.Obeys advance Permitted (fun _ _ _ => True)
        (fun flight _ => flight = .claiming []) (.claiming []) →
      (program >>= fun value => pure (.inr (wrap value))).Obeys advance Permitted
        (fun _ _ _ => True) Final (.claiming []) := by
    intro α program wrap flies
    apply flies.bind
    rintro _ value rfl
    exact ⟨rfl, _, rfl⟩
  cases call with
  | getLikeCount contentType contentId =>
      exact wrapped _ (getLikeCount_flies contentType contentId)
  | getLikesCountBatch items => exact wrapped _ (getLikesCountBatch_flies items)
  | rehydrate dbCounts lockedKeys rehydrationSet =>
      exact ⟨trivial, fun _ _ => ⟨rfl, _, rfl⟩⟩
  | _ => exact counts.elim

/-! ### Who is at a query -/

section Item

variable (contentType : ContentType) (contentId : ContentId)

/-- The step is a query that reads the count of the item. -/
def LikeOp.Fetches : LikeOp → Prop
  | .dbGetLikesCount otherType otherId => otherType = contentType ∧ otherId = contentId
  | .dbGetCountsBatch items => ⟨contentType, contentId⟩ ∈ items
  | _ => False

/-- A query for the count of the item is in flight in this thread. -/
def InFlight {setting : Setting} (thread : Thread (likeService setting)) : Prop :=
  ∃ op next, thread.rest = .perform op next ∧ op.Fetches contentType contentId

/-- No two queries for the count of the item are in flight at once. -/
def FetchedApart {setting : Setting} (pool : Pool (likeService setting)) : Prop :=
  ∀ (i j : Nat) (one two : Thread (likeService setting)),
    pool.threads[i]? = some one → pool.threads[j]? = some two →
    InFlight contentType contentId one → InFlight contentType contentId two → i = j

end Item

/-- The steps that only a batch takes. -/
def LikeOp.OfBatch : LikeOp → Prop
  | .flightInsert _ | .dbGetCountsBatch _ | .spawn _ => True
  | _ => False

/-- The steps of a batch are not those of the other stages. -/
theorem CountFlight.claiming_of_permitted {flight : CountFlight} {op : LikeOp}
    (permitted : flight.Permitted op) (batch : op.OfBatch) :
    ∃ lockKeys, flight = .claiming lockKeys := by
  cases flight with
  | claiming lockKeys => exact ⟨lockKeys, rfl⟩
  | waiting lockKey lock =>
      obtain rfl := permitted
      exact batch.elim
  | checking lockKey lock =>
      obtain ⟨_, _, rfl⟩ := permitted
      exact batch.elim
  | fetching lockKey lock =>
      obtain ⟨_, _, rfl, _⟩ := permitted
      exact batch.elim
  | leaving lock =>
      rcases permitted with rfl | ⟨_, rfl⟩ | ⟨_, _, _, rfl⟩ <;> exact batch.elim

/-- A call at a query for the item is in a stage that fetches it. -/
theorem fetches_of_permitted {contentType : ContentType} {contentId : ContentId}
    {flight : CountFlight} {op : LikeOp} (permitted : flight.Permitted op)
    (queries : op.Fetches contentType contentId) :
    flight.Fetches (formatLockKey contentType contentId) := by
  cases op with
  | dbGetLikesCount otherType otherId =>
      obtain ⟨rfl, rfl⟩ := queries
      cases flight with
      | claiming lockKeys => exact permitted.elim
      | waiting lockKey lock => cases permitted
      | checking lockKey lock =>
          obtain ⟨_, _, absurd⟩ := permitted
          cases absurd
      | fetching lockKey lock =>
          obtain ⟨_, _, same, rfl⟩ := permitted
          cases same
          rfl
      | leaving lock =>
          rcases permitted with absurd | ⟨_, absurd⟩ | ⟨_, _, _, absurd⟩ <;> cases absurd
  | dbGetCountsBatch items =>
      obtain ⟨lockKeys, rfl⟩ := CountFlight.claiming_of_permitted permitted trivial
      exact permitted ⟨contentType, contentId⟩ queries
  | _ => exact queries.elim

end Flights

/-! ### The entry of the item -/

section Runs

variable {setting : Setting}

/-- Where the calls that have taken a step stand after a trace. -/
def countFlight (i : Nat) (trace : List (Event (likeService setting))) : CountFlight :=
  controlAfter CountFlight.advance i (.claiming []) trace

def countFlights (trace : List (Event (likeService setting))) : List CountFlight :=
  trace.map fun event => countFlight event.thread trace

/-- The step keeps the entry of the key in step with its use.  A batch does not put its own
mutex over the one that a call fetches under, no call removes the entry while a fetch is on
its way, and a call goes on to its query under the mutex that is in the map, which no batch
has claimed. -/
structure KeepsEntry (key : String) (before : List (Event (likeService setting)))
    (event : Event (likeService setting)) : Prop where
  notReplaced : event.op = .flightInsert key →
    ∀ flight ∈ countFlights before, ∀ lock, flight ≠ .fetching key lock
  notRemoved : event.op = .flightRemove key →
    ∀ flight ∈ countFlights before, ¬ flight.Fetches key
  current : ∀ lock,
    (countFlight event.thread before).advance event.op event.res = .fetching key lock →
      event.before.flightLocks key = some lock ∧
        ∀ flight ∈ countFlights before, ∀ lockKeys, flight = .claiming lockKeys → key ∉ lockKeys

/-- A stage that fetches is that of a call that has taken a step. -/
theorem mem_countFlights {key : String} {i : Nat} {trace : List (Event (likeService setting))}
    (fetches : (countFlight i trace).Fetches key) : countFlight i trace ∈ countFlights trace := by
  by_contra absent
  have untouched : ∀ event ∈ trace, event.thread ≠ i := by
    rintro event member rfl
    exact absent (List.mem_map_of_mem member)
  unfold countFlight at fetches
  rw [controlAfter_untouched untouched] at fetches
  cases fetches

/-- At most one call is fetching the item, and the entry of the item is there while one is:
it holds the mutex of a call of `get_like_count`. -/
structure Excluded (key : String) (phases : List CountFlight) (world : World) : Prop where
  owned : Owned CountFlight.owns world.held phases
  alone : AtMostOne (CountFlight.Fetches key) phases
  present : ∀ flight ∈ phases, flight.Fetches key → ∃ lock,
    world.flightLocks key = some lock ∧ ∀ other, flight = .fetching key other → other = lock

variable {key : String} {phases : List CountFlight} {world after : World} {i : Nat}
  {flight : CountFlight} {env : Surroundings} {op : LikeOp} {answer : op.Res}
  {spawned : List LikeCall}

/-- A mutex is taken by a call that waits for it, and given back by the call that leaves. -/
theorem CountFlight.lockMove (permitted : flight.Permitted op)
    (handled : World.handle setting env op world = some (answer, after, spawned)) :
    LockMove flight.owns (flight.advance op answer).owns world.held after.held := by
  rw [World.handle_held handled]
  cases flight with
  | claiming lockKeys =>
      cases op with
      | mutexLock lock => exact permitted.elim
      | mutexUnlock lock => exact permitted.elim
      | flightInsert lockKey => cases answer <;> exact .keep
      | _ => exact .keep
  | waiting lockKey lock =>
      obtain rfl := permitted
      exact .acquire (World.handle_mutexLock handled)
  | checking lockKey lock =>
      obtain ⟨_, _, rfl⟩ := permitted
      simp only [CountFlight.advance]
      cases cachedCount answer <;> exact .keep
  | fetching lockKey lock =>
      obtain ⟨_, _, rfl, _⟩ := permitted
      exact .keep
  | leaving lock =>
      rcases permitted with rfl | ⟨_, rfl⟩ | ⟨_, _, _, rfl⟩
      · exact .release
      · exact .keep
      · exact .keep

/-- An entry stays as it is under steps that neither insert nor remove its key. -/
theorem entry_kept {lock : Nat} (there : world.flightLocks key = some lock)
    (noInsert : op ≠ .flightInsert key) (noRemove : op ≠ .flightRemove key) :
    world.flightLocksAfter op key = some lock := by
  cases op with
  | flightInsert other =>
      rcases eq_or_ne key other with rfl | different
      · exact absurd rfl noInsert
      · simpa [World.flightLocksAfter, different] using there
  | flightRemove other =>
      rcases eq_or_ne key other with rfl | different
      · exact absurd rfl noRemove
      · simpa [World.flightLocksAfter, different] using there
  | flightEntry other =>
      rcases eq_or_ne key other with rfl | different
      · simp [World.flightLocksAfter, there]
      · cases found : world.flightLocks other with
        | some held => simpa [World.flightLocksAfter, found] using there
        | none => simpa [World.flightLocksAfter, found, different] using there
  | _ => exact there

/-- A step that takes no call to its query, and leaves the entry alone while one is there. -/
theorem Excluded.keep (excluded : Excluded key phases world) (at_i : phases[i]? = some flight)
    (permitted : flight.Permitted op)
    (handled : World.handle setting env op world = some (answer, after, spawned))
    (still : (flight.advance op answer).Fetches key →
      flight.Fetches key ∧ ∀ lock, flight.advance op answer ≠ .fetching key lock)
    (entry : ∀ other ∈ phases, other.Fetches key → ∀ lock,
      world.flightLocks key = some lock → after.flightLocks key = some lock) :
    Excluded key (phases.set i (flight.advance op answer)) after where
  owned := excluded.owned.move at_i (CountFlight.lockMove permitted handled)
  alone := by
    apply excluded.alone.set
    intro fetches j other elsewhere at_j fetchesToo
    exact elsewhere (excluded.alone i j flight other at_i at_j (still fetches).1 fetchesToo)
  present := by
    intro other member fetches
    rcases List.mem_or_eq_of_mem_set member with old | rfl
    · obtain ⟨lock, there, under⟩ := excluded.present other old fetches
      exact ⟨lock, entry other old fetches lock there, under⟩
    · obtain ⟨fetched, claims⟩ := still fetches
      have old := List.mem_of_getElem? at_i
      obtain ⟨lock, there, _⟩ := excluded.present flight old fetched
      exact ⟨lock, entry flight old fetched lock there, fun _ is => absurd is (claims _)⟩

/-- A batch puts its own mutex under the key, and claims the key that was not there. -/
theorem Excluded.insert (excluded : Excluded key phases world) (at_i : phases[i]? = some flight)
    (permitted : flight.Permitted (.flightInsert key)) {isNone : Bool}
    (handled : World.handle setting env (.flightInsert key) world =
      some (isNone, after, spawned))
    (notReplaced : ∀ other ∈ phases, ∀ lock, other ≠ .fetching key lock) :
    Excluded key (phases.set i (flight.advance (.flightInsert key) isNone)) after := by
  obtain ⟨lockKeys, rfl⟩ := CountFlight.claiming_of_permitted permitted trivial
  have map : after.flightLocks key = some world.nextMutex := by
    rw [(World.handle_after handled).1]
    exact Function.update_self _ _ _
  have was : isNone = (world.flightLocks key).isNone := by
    simp only [World.handle, World.serve, Option.some.injEq, Prod.mk.injEq] at handled
    exact handled.1.symm
  have own : ∀ other ∈ phases.set i
      (CountFlight.advance (.claiming lockKeys) (.flightInsert key) isNone),
      ∀ lock, other ≠ .fetching key lock := by
    intro other member lock
    rcases List.mem_or_eq_of_mem_set member with old | rfl
    · exact notReplaced other old lock
    · cases isNone <;> rintro ⟨⟩
  constructor
  · exact excluded.owned.move at_i (CountFlight.lockMove permitted handled)
  · apply excluded.alone.set
    intro fetches j other elsewhere at_j fetchesToo
    cases isNone with
    | false => exact elsewhere (excluded.alone i j _ other at_i at_j fetches fetchesToo)
    | true =>
        -- the key was not in the map, so nobody was fetching
        obtain ⟨lock, there, _⟩ :=
          excluded.present other (List.mem_of_getElem? at_j) fetchesToo
        rw [there] at was
        cases was
  · intro other member _
    exact ⟨world.nextMutex, map, fun lock is => absurd is (own other member lock)⟩

/-- A call of `get_like_count` misses the cache a second time and goes on to its query. -/
theorem Excluded.fetch {lock : Nat} (excluded : Excluded key phases world)
    (at_i : phases[i]? = some (.checking key lock))
    (permitted : CountFlight.Permitted (.checking key lock) op)
    (handled : World.handle setting env op world = some (answer, after, spawned))
    (misses : CountFlight.advance (.checking key lock) op answer = .fetching key lock)
    (current : world.flightLocks key = some lock)
    (unclaimed : ∀ other ∈ phases, ∀ lockKeys, other = .claiming lockKeys → key ∉ lockKeys) :
    Excluded key
      (phases.set i (CountFlight.advance (.checking key lock) op answer)) after := by
  have map : after.flightLocks key = some lock := by
    obtain ⟨_, _, rfl⟩ := permitted
    rw [(World.handle_after handled).1]
    exact current
  constructor
  · exact excluded.owned.move at_i (CountFlight.lockMove permitted handled)
  · apply excluded.alone.set
    intro _ j other elsewhere at_j fetches
    have member := List.mem_of_getElem? at_j
    cases other with
    | claiming lockKeys => exact unclaimed _ member lockKeys rfl fetches
    | fetching lockKey held =>
        -- both hold the mutex that is in the map
        obtain ⟨entry, there, under⟩ := excluded.present _ member fetches
        obtain rfl : lockKey = key := fetches
        obtain rfl := Option.some.inj (there.symm.trans current)
        obtain rfl := under held rfl
        exact elsewhere (excluded.owned.unique i j _ _ held at_i at_j rfl rfl)
    | waiting lockKey held => exact fetches.elim
    | checking lockKey held => exact fetches.elim
    | leaving held => exact fetches.elim
  · intro other member fetches
    rcases List.mem_or_eq_of_mem_set member with old | rfl
    · obtain ⟨entry, there, under⟩ := excluded.present other old fetches
      obtain rfl := Option.some.inj (there.symm.trans current)
      exact ⟨entry, map, under⟩
    · rw [misses]
      refine ⟨lock, map, ?_⟩
      rintro _ ⟨⟩
      rfl

/-- The step law: a step that keeps the entry in step with its use keeps the fetches of the
item apart. -/
theorem excluded_step (excluded : Excluded key phases world) (at_i : phases[i]? = some flight)
    (permitted : flight.Permitted op)
    (handled : World.handle setting env op world = some (answer, after, spawned))
    (notReplaced : op = .flightInsert key →
      ∀ other ∈ phases, ∀ lock, other ≠ .fetching key lock)
    (notRemoved : op = .flightRemove key → ∀ other ∈ phases, ¬ other.Fetches key)
    (current : ∀ lock, flight.advance op answer = .fetching key lock →
      world.flightLocks key = some lock ∧
        ∀ other ∈ phases, ∀ lockKeys, other = .claiming lockKeys → key ∉ lockKeys) :
    Excluded key (phases.set i (flight.advance op answer)) after := by
  have map := (World.handle_after handled).1
  by_cases inserts : op = .flightInsert key
  · subst inserts
    exact excluded.insert at_i permitted handled (notReplaced rfl)
  · have entry : ∀ other ∈ phases, other.Fetches key → ∀ lock,
        world.flightLocks key = some lock → after.flightLocks key = some lock := by
      intro other member fetches lock there
      rw [map]
      exact entry_kept there inserts fun removes => notRemoved removes other member fetches
    have goOn := excluded.keep at_i permitted handled
    cases flight with
    | claiming lockKeys =>
        apply goOn _ entry
        cases op with
        | flightInsert other =>
            intro fetches
            cases answer with
            | false => exact ⟨fetches, nofun⟩
            | true =>
                refine ⟨?_, nofun⟩
                rcases List.mem_append.mp fetches with old | new
                · exact old
                · exact absurd (by rw [List.mem_singleton.mp new]) inserts
        | dbGetCountsBatch items => exact nofun
        | flightEntry other => exact fun fetches => fetches.elim
        | _ => exact fun fetches => ⟨fetches, nofun⟩
    | waiting lockKey lock =>
        obtain rfl := permitted
        exact goOn (fun fetches => fetches.elim) entry
    | checking lockKey lock =>
        cases hit : CountFlight.advance (.checking lockKey lock) op answer with
        | fetching other held =>
            obtain ⟨rfl, rfl⟩ : other = lockKey ∧ held = lock := by
              obtain ⟨_, _, rfl⟩ := permitted
              simp only [CountFlight.advance] at hit
              split at hit
              · cases hit
              · cases hit
                exact ⟨rfl, rfl⟩
            by_cases same : other = key
            · subst same
              obtain ⟨there, unclaimed⟩ := current held hit
              rw [← hit]
              exact excluded.fetch at_i permitted handled hit there unclaimed
            · rw [← hit]
              apply goOn _ entry
              rw [hit]
              exact fun fetches => absurd fetches same
        | leaving held =>
            rw [← hit]
            apply goOn _ entry
            rw [hit]
            exact fun fetches => fetches.elim
        | _ =>
            obtain ⟨_, _, rfl⟩ := permitted
            simp only [CountFlight.advance] at hit
            split at hit <;> cases hit
    | fetching lockKey lock =>
        obtain ⟨_, _, rfl, _⟩ := permitted
        exact goOn (fun fetches => fetches.elim) entry
    | leaving lock =>
        apply goOn _ entry
        rcases permitted with rfl | ⟨_, rfl⟩ | ⟨_, _, _, rfl⟩
        · exact nofun
        · exact fun fetches => fetches.elim
        · exact fun fetches => fetches.elim

/-- A task that the step starts fetches nothing yet. -/
theorem Excluded.append (excluded : Excluded key phases world) (spawned : List LikeCall) :
    Excluded key (phases ++ spawned.map CountFlight.initial) world where
  owned := excluded.owned.append (by simp [CountFlight.initial, CountFlight.owns])
  alone := by
    apply excluded.alone.append
    intro flight member fetches
    obtain ⟨_, _, rfl⟩ := List.mem_map.mp member
    cases fetches
  present := by
    intro flight member fetches
    rcases List.mem_append.mp member with old | new
    · exact excluded.present flight old fetches
    · obtain ⟨_, _, rfl⟩ := List.mem_map.mp new
      cases fetches

theorem excluded_start (key : String) (calls : List LikeCall)
    (free : ∀ lock, world.held lock = false) :
    Excluded key (calls.map CountFlight.initial) world where
  owned := owned_start free (by simp [CountFlight.initial, CountFlight.owns])
  alone := by
    intro i j one two at_i _ fetches
    obtain ⟨_, _, rfl⟩ := by simpa using at_i
    cases fetches
  present := by
    intro flight member fetches
    obtain ⟨_, _, rfl⟩ := List.mem_map.mp member
    cases fetches

/-- The run law: while every step keeps the entry in step with its use, the fetches of the item
stay apart. -/
theorem excluded_run {calls : List LikeCall} {trace : List (Event (likeService setting))}
    {last : Pool (likeService setting)} (free : ∀ lock, world.held lock = false)
    (among : ∀ call ∈ calls, call.Counts) (run : Run (Pool.start world calls) trace last)
    (keeps : ∀ before event after, trace = before ++ event :: after →
      KeepsEntry key before event) :
    ∃ phases, Phased (M := likeService setting) CountFlight.advance CountFlight.Permitted
        (fun _ _ _ => True) CountFlight.Final phases last ∧
      Excluded key phases last.state := by
  apply Run.phases_led (M := likeService setting) (fun _ phases world => Excluded key phases world)
    (counts_fly setting) (fun _ _ final => absurd final.2 nofun) among run
    (excluded_start key calls free)
  intro before event after phases flight next spawned split led at_i permitted handled excluded
  have step := keeps before event after split
  -- the phases that fetch are those of calls that have taken a step
  have stepped : ∀ other ∈ phases, other.Fetches key → other ∈ countFlights before := by
    intro other member fetches
    obtain ⟨j, at_j⟩ := List.getElem?_of_mem member
    obtain ⟨_, rfl⟩ := led j other at_j
    exact mem_countFlights fetches
  have own : flight = countFlight event.thread before := by
    obtain ⟨_, same⟩ := led event.thread flight at_i
    exact same
  refine ⟨?_, trivial, Excluded.append (excluded_step excluded at_i permitted handled ?_ ?_ ?_) _⟩
  · intro task started
    have spawns := World.handle_spawned handled started
    obtain ⟨thread, call, env, op, answer, found⟩ := event
    obtain rfl : op = .spawn task := spawns
    obtain ⟨lockKeys, rfl⟩ := CountFlight.claiming_of_permitted permitted trivial
    exact permitted
  · intro inserts other member lock is
    exact step.notReplaced inserts other (stepped other member (is ▸ rfl)) lock is
  · intro removes other member fetches
    exact step.notRemoved removes other (stepped other member fetches) fetches
  · intro lock goes
    obtain ⟨there, unclaimed⟩ := step.current lock (own ▸ goes)
    refine ⟨there, fun other member lockKeys is claimed => ?_⟩
    exact unclaimed other (stepped other member (is ▸ claimed)) lockKeys is claimed

/-- In a run of calls that count, in which every step keeps the entry of the item in step with
its use, no two queries for the count of the item are ever in flight at once. -/
theorem fetched_apart (contentType : ContentType) (contentId : ContentId) (world : World)
    (calls : List LikeCall) (trace : List (Event (likeService setting)))
    (last : Pool (likeService setting))
    (free : ∀ lock, world.held lock = false) (among : ∀ call ∈ calls, call.Counts)
    (run : Run (Pool.start world calls) trace last)
    (keeps : ∀ before event after, trace = before ++ event :: after →
      KeepsEntry (formatLockKey contentType contentId) before event) :
    FetchedApart contentType contentId last := by
  obtain ⟨phases, phased, excluded⟩ := excluded_run free among run keeps
  intro i j one two at_i at_j inFlight inFlightToo
  have fetches : ∀ (k : Nat) (thread : Thread (likeService setting)),
      last.threads[k]? = some thread → InFlight contentType contentId thread →
        ∃ flight, phases[k]? = some flight ∧
          flight.Fetches (formatLockKey contentType contentId) := by
    intro k thread at_k queries
    obtain ⟨call, rest⟩ := thread
    obtain ⟨op, next, rfl, names⟩ := queries
    obtain ⟨flight, at_phase, permitted⟩ := phased.performing at_k
    exact ⟨flight, at_phase, fetches_of_permitted permitted names⟩
  obtain ⟨flight, phase_i, holds⟩ := fetches i one at_i inFlight
  obtain ⟨other, phase_j, holdsToo⟩ := fetches j two at_j inFlightToo
  exact excluded.alone i j flight other phase_i phase_j holds holdsToo

/-- A check that is enough for `KeepsEntry`. -/
def entryStays? (key : String) (before : List (Event (likeService setting)))
    (event : Event (likeService setting)) : Bool :=
  let unfetched := (countFlights before).all fun flight => !flight.fetches? key
  (match event.op with
    | .flightInsert _ | .flightRemove _ => unfetched
    | _ => true) &&
  match (countFlight event.thread before).advance event.op event.res with
  | .fetching _ lock => unfetched && event.before.flightLocks key == some lock
  | _ => true

theorem KeepsEntry.of_check {key : String} {before : List (Event (likeService setting))}
    {event : Event (likeService setting)} (checked : entryStays? key before event = true) :
    KeepsEntry key before event := by
  have unfetched : ((countFlights before).all fun flight => !flight.fetches? key) = true →
      ∀ flight ∈ countFlights before, ¬ flight.Fetches key := by
    intro all flight member fetches
    have fine := List.all_eq_true.mp all flight member
    rw [CountFlight.fetches?_eq_true.mpr fetches] at fine
    cases fine
  obtain ⟨first, second⟩ := Bool.and_eq_true_iff.mp checked
  constructor
  · rintro inserts flight member lock rfl
    rw [inserts] at first
    exact unfetched first _ member rfl
  · intro removes
    rw [removes] at first
    exact unfetched first
  · intro lock goes
    rw [goes] at second
    obtain ⟨all, entry⟩ := Bool.and_eq_true_iff.mp second
    refine ⟨eq_of_beq entry, ?_⟩
    rintro _ member lockKeys rfl claimed
    exact unfetched all _ member claimed

end Runs

/-- A batch claims the item after a call of `get_like_count` has come back with its count. -/
theorem fetched_apart_in_turn :
    ∃ trace last,
      Run (M := likeService .reference)
        (Pool.start twoLikes [.getLikeCount ⟨"post"⟩ ⟨9⟩, .getLikesCountBatch [⟨⟨"post"⟩, ⟨9⟩⟩]])
        trace last ∧
      queried trace = [2] ∧ FetchedApart ⟨"post"⟩ ⟨9⟩ last := by
  obtain ⟨trace, last, run, passed⟩ := Run.exists_of_exec (M := likeService .reference)
    ((1 :: List.replicate 8 0 ++ [1]).map fun i => (i, Surroundings.calm))
    (Pool.start twoLikes [.getLikeCount ⟨"post"⟩ ⟨9⟩, .getLikesCountBatch [⟨⟨"post"⟩, ⟨9⟩⟩]])
    (fun trace _ => queried trace = [2] &&
      checkSteps (entryStays? (formatLockKey ⟨"post"⟩ ⟨9⟩)) [] trace)
    (by decide +kernel)
  simp only [Bool.and_eq_true, decide_eq_true_eq] at passed
  obtain ⟨read, checked⟩ := passed
  refine ⟨trace, last, run, read, ?_⟩
  apply fetched_apart _ _ _ _ _ _ _ _ run
  · intro before event after split
    exact .of_check (of_checkSteps checked before event after split)
  · intro lock
    rfl
  · intro call member
    rcases List.mem_pair.mp member with rfl | rfl <;> trivial

/-- The executable form of `InFlight`. -/
def inFlight? (contentType : ContentType) (contentId : ContentId)
    (thread : Thread (likeService .reference)) : Bool :=
  match thread.rest with
  | .perform (.dbGetLikesCount otherType otherId) _ =>
      otherType = contentType && otherId = contentId
  | .perform (.dbGetCountsBatch items) _ => ⟨contentType, contentId⟩ ∈ items
  | _ => false

theorem inFlight_of_check {contentType : ContentType} {contentId : ContentId}
    {thread : Thread (likeService .reference)}
    (checked : inFlight? contentType contentId thread = true) :
    InFlight contentType contentId thread := by
  unfold inFlight? at checked
  split at checked
  · next otherType otherId next rest =>
      have both : otherType = contentType ∧ otherId = contentId := by simpa using checked
      exact ⟨_, next, rest, both⟩
  · next items next rest =>
      have among : ⟨contentType, contentId⟩ ∈ items := of_decide_eq_true checked
      exact ⟨_, next, rest, among⟩
  · cases checked

/-- A call of `get_like_count` locks the mutex that a batch has put into the map, and asks for
the count that the batch is asking for. -/
theorem fetched_twice_at_once :
    ∃ trace last,
      Run (M := likeService .reference)
        (Pool.start twoLikes [.getLikesCountBatch [⟨⟨"post"⟩, ⟨9⟩⟩], .getLikeCount ⟨"post"⟩ ⟨9⟩])
        trace last ∧
      ¬ FetchedApart ⟨"post"⟩ ⟨9⟩ last := by
  obtain ⟨trace, last, run, passed⟩ := Run.exists_of_exec (M := likeService .reference)
    ([0, 0, 1, 1, 1, 1].map fun i => (i, Surroundings.calm))
    (Pool.start twoLikes [.getLikesCountBatch [⟨⟨"post"⟩, ⟨9⟩⟩], .getLikeCount ⟨"post"⟩ ⟨9⟩])
    (fun _ last => last.threads[0]?.any (inFlight? ⟨"post"⟩ ⟨9⟩) &&
      last.threads[1]?.any (inFlight? ⟨"post"⟩ ⟨9⟩))
    (by decide +kernel)
  obtain ⟨first, second⟩ := Bool.and_eq_true_iff.mp passed
  obtain ⟨batch, at_batch, queries⟩ := (Option.any_eq_true _ _).mp first
  obtain ⟨single, at_single, queriesToo⟩ := (Option.any_eq_true _ _).mp second
  refine ⟨trace, last, run, ?_⟩
  intro apart
  have same := apart 0 1 batch single at_batch at_single (inFlight_of_check queries)
    (inFlight_of_check queriesToo)
  cases same

end SocialApi
