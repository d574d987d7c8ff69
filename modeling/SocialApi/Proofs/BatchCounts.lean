/-
Module: SocialApi.Proofs.BatchCounts
Purpose: What a batch request for counts answers when it runs alone: which items it serves from
  the cache, which from the table, in which order, and whose counts they are.
Trusted boundary: none
Main exports:
  lockMissing_alone, getLikesCountBatch_alone, OwnCounts, Unmixed, own_counts_iff,
  InRequestOrder, Orderly, in_request_order_iff
-/
import SocialApi.Application.LikeService

namespace SocialApi

open Process
open LikeService
open RedisLikeRepository (formatCountKey asOptionU64_some asOptionU64_none collectCounts
  CountsById)

/-! ### Lists -/

section Lists

variable {α β : Type}

/-- Any order of the images is that order of the rows. -/
theorem anyOrder_map (f : α → β) (order : List Nat) (rows : List α) :
    anyOrder order (rows.map f) = (anyOrder order rows).map f := by
  induction order generalizing rows with
  | nil => rfl
  | cons i order inductionHypothesis =>
      unfold anyOrder
      rw [List.getElem?_map]
      cases rows[i]? with
      | none => rfl
      | some row =>
          rw [Option.map_some]
          dsimp only
          rw [List.eraseIdx_map, inductionHypothesis, List.map_cons]

/-- In a list whose members that pass all come first, nothing moves when it is split. -/
theorem filter_append_filter_not {p : α → Bool} {l : List α}
    (first : l.Pairwise fun a b => p a = false → p b = false) :
    l.filter p ++ l.filter (fun a => !p a) = l := by
  induction l with
  | nil => rfl
  | cons a l inductionHypothesis =>
      obtain ⟨head, tail⟩ := List.pairwise_cons.mp first
      cases passes : p a with
      | true =>
          simp only [List.filter_cons, passes, if_true, Bool.not_true, Bool.false_eq_true,
            if_false, List.cons_append]
          rw [inductionHypothesis tail]
      | false =>
          have none : ∀ b ∈ l, p b = false := fun b member => head b member passes
          have left : l.filter p = [] :=
            List.filter_eq_nil_iff.mpr fun b member => by simp [none b member]
          have right : l.filter (fun b => !p b) = l :=
            List.filter_eq_self.mpr fun b member => by simp [none b member]
          simp [passes, left, right]

/-- Members that pass, and then others that do not, are the whole list exactly when those that pass
come first in it and the others are the rest of it. -/
theorem filter_append_eq_iff {p : α → Bool} {l others : List α}
    (fail : ∀ a ∈ others, p a = false) :
    l.filter p ++ others = l ↔
      l.Pairwise (fun a b => p a = false → p b = false) ∧
        others = l.filter fun a => !p a := by
  constructor
  · intro same
    have left : (l.filter p).filter (fun a => !p a) = [] := by simp
    have right : others.filter (fun a => !p a) = others :=
      List.filter_eq_self.mpr fun a member => by simp [fail a member]
    constructor
    · rw [← same, List.pairwise_append]
      refine ⟨?_, ?_, ?_⟩
      · apply List.pairwise_of_forall_mem_list
        intro a member b _ absent
        rw [(List.mem_filter.mp member).2] at absent
        cases absent
      · apply List.pairwise_of_forall_mem_list
        exact fun _ _ b member _ => fail b member
      · intro a member b among _
        exact fail b among
    · conv_rhs => rw [← same]
      rw [List.filter_append, left, right, List.nil_append]
  · rintro ⟨first, rfl⟩
    exact filter_append_filter_not first

/-- Those that do not pass are all different when none of them comes again. -/
theorem nodup_filter_not_iff {p : α → Bool} {l : List α} :
    (l.filter fun a => !p a).Nodup ↔ l.Pairwise fun a b => p a = false → a ≠ b := by
  unfold List.Nodup
  rw [List.pairwise_filter]
  apply List.Pairwise.iff
  intro a b
  constructor
  · rintro different fails rfl
    exact different (by simp [fails]) (by simp [fails]) rfl
  · intro different fails _
    exact different (by simpa using fails)

end Lists

/-! ### A request that runs alone -/

section Alone

variable {setting : Setting} {environment : Nat → Surroundings}

/-- The state after a step that inserts the item into the map of flights. -/
def World.inserted (env : Surroundings) (item : ContentItem) (world : World) : World :=
  { world.advance env with
    flightLocks := Function.update world.flightLocks
      (formatLockKey item.contentType item.contentId) (some world.nextMutex)
    nextMutex := world.nextMutex + 1 }

/-- An insert puts the item in flight, and no other. -/
theorem World.inserted_free {env : Surroundings} {item other : ContentItem} {world : World} :
    (world.inserted env item).flightLocks
        (formatLockKey other.contentType other.contentId) = none ↔
      other ≠ item ∧
        world.flightLocks (formatLockKey other.contentType other.contentId) = none := by
  simp only [World.inserted]
  by_cases same : other = item
  · subst same
    simp
  · have apart : formatLockKey other.contentType other.contentId ≠
        formatLockKey item.contentType item.contentId := by
      intro sameKey
      obtain ⟨sameType, sameId⟩ := formatLockKey_inj sameKey
      cases other
      cases item
      exact same (by simp_all)
    rw [Function.update_of_ne apart]
    simp [same]

/-- One round of the second loop: the item is taken if it was not in flight. -/
theorem run_lockMissing_cons {γ : Type} {item : ContentItem} {missingItems : List ContentItem}
    {lockedKeys : List String} {toFetchFromDb : List ContentItem} {world : World}
    (next : LockedItems → Service γ) {isNone : Bool}
    (free : (world.flightLocks (formatLockKey item.contentType item.contentId)).isNone =
      isNone) :
    (lockMissing (item :: missingItems) lockedKeys toFetchFromDb >>= next).run
        (World.handle setting) environment world =
      ((if isNone then
          lockMissing missingItems
            (lockedKeys ++ [formatLockKey item.contentType item.contentId])
            (toFetchFromDb ++ [item])
        else lockMissing missingItems lockedKeys toFetchFromDb) >>= next).run
          (World.handle setting) (fun n => environment (n + 1))
          (world.inserted (environment 0) item) := by
  subst free
  rw [lockMissing, Program.request_bind, Program.bind_perform]
  apply Program.run_perform_quiet
  rfl

/-- The second loop, where exactly the items that it has taken already are in flight, takes
every missing item once, in the order of their first occurrences. -/
theorem lockMissing_alone {γ : Type} {missingItems : List ContentItem}
    {lockedKeys : List String} {toFetchFromDb : List ContentItem} {world : World}
    (inFlight : ∀ item : ContentItem,
      world.flightLocks (formatLockKey item.contentType item.contentId) = none ↔
        item ∉ toFetchFromDb) :
    ∃ fetched keys after, fetched.Sublist missingItems ∧ fetched.Nodup ∧
      (∀ item, item ∈ fetched ↔ item ∈ missingItems ∧ item ∉ toFetchFromDb) ∧
      after.likes = world.likes ∧
      ∀ next : LockedItems → Service γ,
        (lockMissing missingItems lockedKeys toFetchFromDb >>= next).run (World.handle setting)
            environment world =
          (next ⟨keys, toFetchFromDb ++ fetched⟩).run (World.handle setting)
            (fun n => environment (n + missingItems.length)) after := by
  induction missingItems generalizing lockedKeys toFetchFromDb environment world with
  | nil =>
      refine ⟨[], lockedKeys, world, .slnil, .nil, by simp, rfl, fun next => ?_⟩
      rw [List.append_nil]
      rfl
  | cons item missingItems inductionHypothesis =>
      by_cases taken : item ∈ toFetchFromDb
      · have held : (world.flightLocks
            (formatLockKey item.contentType item.contentId)).isNone = false := by
          rw [Option.isNone_eq_false_iff, Option.isSome_iff_ne_none]
          exact fun free => (inFlight item).mp free taken
        obtain ⟨fetched, keys, after, sublist, distinct, members, likes, runs⟩ :=
          @inductionHypothesis (fun n => environment (n + 1)) lockedKeys toFetchFromDb
            (world.inserted (environment 0) item) (by
              intro other
              rw [World.inserted_free, inFlight]
              constructor
              · exact And.right
              · exact fun absent => ⟨by rintro rfl; exact absent taken, absent⟩)
        refine ⟨fetched, keys, after, sublist.cons _, distinct, ?_, likes, fun next => ?_⟩
        · intro other
          rw [members other, List.mem_cons]
          constructor
          · exact fun both => ⟨.inr both.1, both.2⟩
          · rintro ⟨rfl | later, absent⟩
            · exact absurd taken absent
            · exact ⟨later, absent⟩
        · rw [run_lockMissing_cons next held]
          simp only [Bool.false_eq_true, if_false]
          rw [runs next]
          simp [Nat.add_assoc]
      · have free : (world.flightLocks
            (formatLockKey item.contentType item.contentId)).isNone = true :=
          Option.isNone_iff_eq_none.mpr ((inFlight item).mpr taken)
        obtain ⟨fetched, keys, after, sublist, distinct, members, likes, runs⟩ :=
          @inductionHypothesis (fun n => environment (n + 1))
            (lockedKeys ++ [formatLockKey item.contentType item.contentId])
            (toFetchFromDb ++ [item]) (world.inserted (environment 0) item) (by
              intro other
              rw [World.inserted_free, inFlight]
              simp [and_comm])
        refine ⟨item :: fetched, keys, after, sublist.cons_cons _, ?_, ?_, likes, fun next => ?_⟩
        · refine List.nodup_cons.mpr ⟨fun again => ?_, distinct⟩
          exact ((members item).mp again).2 (by simp)
        · intro other
          rw [List.mem_cons, members other, List.mem_cons]
          simp only [List.mem_append, List.mem_singleton, not_or]
          constructor
          · rintro (rfl | ⟨later, absent, _⟩)
            · exact ⟨.inl rfl, taken⟩
            · exact ⟨.inr later, absent⟩
          · rintro ⟨rfl | later, absent⟩
            · exact .inl rfl
            · by_cases same : other = item
              · exact .inl same
              · exact .inr ⟨later, absent, same⟩
        · rw [run_lockMissing_cons next free]
          simp only [if_true]
          rw [runs next]
          simp [Nat.add_assoc]

/-- The counts that the batch read of the cache finds, none when it fails. -/
def countsFound (environment : Nat → Surroundings) (items : List ContentItem)
    (world : World) : CountsById :=
  unwrapOr (fun _ => none) (RedisLikeRepository.getCountsBatch (environment 0).fault items
    (world.redis.drop (environment 0).expired))

/-- The entry for an item that is counted in the table. -/
def countedIn (table : LikesTable) (item : ContentItem) : ContentCount where
  contentType := item.contentType
  contentId := item.contentId
  count := table.countOf item.contentType item.contentId

/-- Distinct items are counted once each. -/
theorem getCountsBatch_distinct {fault : Option Fault} {order : List Nat}
    {items : List ContentItem} (distinct : items.Nodup) {table : LikesTable}
    {counts : List ContentCount}
    (answered : PostgresLikeRepository.getCountsBatch fault order items table = .ok counts) :
    counts = (anyOrder order items).map (countedIn table) := by
  cases fault with
  | some e => cases answered
  | none =>
      obtain rfl := Except.ok.inj answered
      rw [distinct.dedup, ← anyOrder_map]
      apply congrArg
      apply List.map_congr_left
      intro item member
      rw [List.count_eq_one_of_mem distinct member, Nat.one_mul]
      rfl

/-- With nothing in flight, a request answers with the items whose id has a count in the
cache, and then with the others, once each, in the order of the database. -/
theorem getLikesCountBatch_alone {items : List ContentItem} {world after : World}
    {results : List ContentCount} {spawned : List LikeCall}
    (free : ∀ lockKey, world.flightLocks lockKey = none)
    (ran : (getLikesCountBatch items).run (World.handle setting) environment world =
      some (.ok results, after, spawned)) :
    ∃ fetched : List ContentItem,
      fetched.Sublist (missingFrom (countsFound environment items world) items) ∧
      fetched.Nodup ∧
      (∀ item, item ∈ fetched ↔ item ∈ missingFrom (countsFound environment items world) items) ∧
      results = cachedResults (countsFound environment items world) items ++
        (anyOrder (environment
            (1 + (missingFrom (countsFound environment items world) items).length)).order
          fetched).map (countedIn world.likes) := by
  unfold getLikesCountBatch at ran
  split at ran
  · cases ran
  · rw [Program.request_bind, Program.run_perform] at ran
    obtain ⟨answer, middle, _, _, handled, ran, _⟩ := ran
    have found : unwrapOr (fun _ => none) answer = countsFound environment items world := by
      simp only [World.handle, World.serve, World.advance, Option.some.injEq,
        Prod.mk.injEq] at handled
      rw [← handled.1]
      rfl
    have locks : middle.flightLocks = world.flightLocks := (World.handle_after handled).1
    have likes : middle.likes = world.likes := (World.handle_after handled).2.1
    dsimp only at ran
    rw [found] at ran
    generalize countsFound environment items world = counts at ran ⊢
    split at ran
    · next noneMissing =>
        obtain ⟨same, _⟩ := Prod.mk.inj (Option.some.inj ran)
        obtain rfl := Except.ok.inj same
        rw [List.isEmpty_iff.mp noneMissing]
        refine ⟨[], .slnil, .nil, by simp, ?_⟩
        have nothing : ∀ order : List Nat, anyOrder order ([] : List ContentItem) = [] :=
          fun order => (anyOrder_perm order []).eq_nil
        rw [nothing, List.map_nil, List.append_nil]
    · next someMissing =>
        obtain ⟨fetched, keys, between, sublist, distinct, members, sameLikes, runs⟩ :=
          @lockMissing_alone setting (fun n => environment (n + 1))
            (Except DomainError (List ContentCount)) (missingFrom counts items) [] [] middle
            (by simp [locks, free])
        simp only [List.not_mem_nil, not_false_eq_true, and_true] at members
        rw [runs, List.nil_append] at ran
        have some : ¬ fetched.isEmpty = true := by
          intro empty
          apply someMissing
          rw [List.isEmpty_iff, List.eq_nil_iff_forall_not_mem] at empty ⊢
          exact fun item member => empty item ((members item).mpr member)
        dsimp only at ran
        rw [if_neg some, Program.request_bind, Program.run_perform] at ran
        obtain ⟨counted, later, _, _, handled, ran, _⟩ := ran
        simp only [World.handle, World.serve, Option.some.injEq, Prod.mk.injEq] at handled
        cases counted with
        | error e =>
            obtain ⟨absurd, _⟩ := Prod.mk.inj (Option.some.inj ran)
            cases absurd
        | ok dbCounts =>
            simp only [Program.request_bind, Program.run_perform] at ran
            obtain ⟨_, _, _, _, _, ⟨_, _, _, _, _, ran, _⟩, _⟩ := ran
            obtain ⟨same, _⟩ := Prod.mk.inj (Option.some.inj ran)
            obtain rfl := Except.ok.inj same
            refine ⟨fetched, sublist, distinct, members, congrArg _ ?_⟩
            have rows := getCountsBatch_distinct distinct handled.1
            rw [rows, World.advance, sameLikes, likes, Nat.zero_add, Nat.add_comm]

end Alone

/-! ### Counts under content ids -/

section Collected

variable {store : Redis} {items : List ContentItem} {counts collected : CountsById}

/-- The key of the item holds the count. -/
def Cached (store : Redis) (item : ContentItem) (count : Nat) : Prop :=
  ∃ entry, store (formatCountKey item.contentType item.contentId) = some entry ∧
    entry.value = .int count

theorem Cached.present {item : ContentItem} {count : Nat} (cached : Cached store item count) :
    store (formatCountKey item.contentType item.contentId) ≠ none := by
  obtain ⟨entry, there, _⟩ := cached
  rw [there]
  exact Option.some_ne_none entry

/-- A count that is collected is cached for an item with the id. -/
theorem collectCounts_sound (read : collectCounts store items counts = .ok collected)
    {contentId : ContentId} {count : Nat} (found : collected contentId = some count) :
    (∃ item ∈ items, item.contentId = contentId ∧ Cached store item count) ∨
      counts contentId = some count := by
  induction items generalizing counts with
  | nil =>
      obtain rfl := Except.ok.inj read
      exact .inr found
  | cons item items inductionHypothesis =>
      have later : ∀ other : CountsById, (∃ item ∈ items, item.contentId = contentId ∧
          Cached store item count) ∨ other contentId = some count →
            (∃ one ∈ item :: items, one.contentId = contentId ∧ Cached store one count) ∨
              other contentId = some count := by
        rintro other (⟨one, member, rest⟩ | kept)
        · exact .inl ⟨one, List.mem_cons_of_mem _ member, rest⟩
        · exact .inr kept
      unfold collectCounts at read
      split at read
      · cases read
      · exact later counts (inductionHypothesis read)
      · next own read_own =>
          rcases later _ (inductionHypothesis read) with found | kept
          · exact .inl found
          · by_cases same : contentId = item.contentId
            · subst same
              rw [Function.update_self] at kept
              obtain rfl := Option.some.inj kept
              exact .inl ⟨item, List.mem_cons_self, rfl, asOptionU64_some read_own⟩
            · rw [Function.update_of_ne same] at kept
              exact .inr kept

/-- Under the id of an item whose key is there, a count is collected. -/
theorem collectCounts_complete (read : collectCounts store items counts = .ok collected)
    {item : ContentItem}
    (there : item ∈ items ∧ store (formatCountKey item.contentType item.contentId) ≠ none ∨
      (counts item.contentId).isSome) : (collected item.contentId).isSome := by
  induction items generalizing counts with
  | nil =>
      obtain rfl := Except.ok.inj read
      exact there.resolve_left (by simp)
  | cons first items inductionHypothesis =>
      unfold collectCounts at read
      split at read
      · cases read
      · next absent =>
          apply inductionHypothesis read
          rcases there with ⟨member, present⟩ | kept
          · rcases List.mem_cons.mp member with rfl | later
            · exact absurd (asOptionU64_none absent) present
            · exact .inl ⟨later, present⟩
          · exact .inr kept
      · next own read_own =>
          apply inductionHypothesis read
          by_cases same : item.contentId = first.contentId
          · right
            rw [same, Function.update_self]
            rfl
          · rw [Function.update_of_ne same]
            rcases there with ⟨member, present⟩ | kept
            · rcases List.mem_cons.mp member with rfl | later
              · exact absurd rfl same
              · exact .inl ⟨later, present⟩
            · exact .inr kept

end Collected

/-! ### Whose counts they are -/

/-- The count is the one cached for the item, or that of its rows when nothing is cached. -/
def OwnCount (store : Redis) (table : LikesTable) (item : ContentItem) (count : Nat) : Prop :=
  match store (formatCountKey item.contentType item.contentId) with
  | some entry => entry.value = .int count
  | none => count = table.countOf item.contentType item.contentId

/-- Every entry has the count of its item. -/
def OwnCounts (store : Redis) (table : LikesTable) (results : List ContentCount) : Prop :=
  ∀ entry ∈ results, OwnCount store table ⟨entry.contentType, entry.contentId⟩ entry.count

/-- Requested items that share their id with a cached one have its count.  When the cache
cannot be read, the requested items that are cached have as many rows as their count says. -/
def Unmixed (fault : Option Fault) (store : Redis) (table : LikesTable)
    (items : List ContentItem) : Prop :=
  match RedisLikeRepository.getCountsBatch fault items store with
  | .ok _ => ∀ item ∈ items, ∀ other ∈ items, other.contentId = item.contentId →
      ∀ count, Cached store other count → OwnCount store table item count
  | .error _ => ∀ item ∈ items,
      OwnCount store table item (table.countOf item.contentType item.contentId)

/-- A cached item has one count. -/
theorem OwnCount.unique {store : Redis} {table : LikesTable} {item : ContentItem}
    {count other : Nat} (cached : Cached store item count)
    (own : OwnCount store table item other) : other = count := by
  obtain ⟨entry, present, value⟩ := cached
  unfold OwnCount at own
  rw [present] at own
  exact Int.ofNat.inj (RedisValue.int.inj (own.symm.trans value))

theorem mem_cachedResults {counts : CountsById} {items : List ContentItem}
    {entry : ContentCount} : entry ∈ cachedResults counts items ↔
      (⟨entry.contentType, entry.contentId⟩ : ContentItem) ∈ items ∧
        counts entry.contentId = some entry.count := by
  simp only [cachedResults, List.mem_filterMap, Option.map_eq_some_iff]
  constructor
  · rintro ⟨⟨itemType, itemId⟩, member, count, found, rfl⟩
    exact ⟨member, found⟩
  · rintro ⟨member, found⟩
    exact ⟨_, member, _, found, rfl⟩

/-- What a batch read of the cache that succeeds says about requested items. -/
theorem getCountsBatch_read {fault : Option Fault} {items : List ContentItem} {store : Redis}
    {counts : CountsById}
    (read : RedisLikeRepository.getCountsBatch fault items store = .ok counts) :
    (∀ contentId count, counts contentId = some count →
      ∃ item ∈ items, item.contentId = contentId ∧ Cached store item count) ∧
    ∀ item ∈ items, store (formatCountKey item.contentType item.contentId) ≠ none →
      (counts item.contentId).isSome := by
  match items, fault with
  | [], _ =>
      obtain rfl := Except.ok.inj read
      exact ⟨by rintro _ _ ⟨⟩, by simp⟩
  | _ :: _, some e => cases read
  | first :: items, none =>
      refine ⟨fun contentId count found => ?_, fun item member present => ?_⟩
      · exact (collectCounts_sound read found).resolve_right (by simp)
      · exact collectCounts_complete read (.inl ⟨member, present⟩)

/-- A batch request that runs alone with nothing in flight, and succeeds, reports the count of
every item exactly when no counts are mixed up under a shared content id. -/
theorem own_counts_iff (setting : Setting) (items : List ContentItem)
    (environment : Nat → Surroundings) (world after : World) (results : List ContentCount)
    (spawned : List LikeCall) (free : ∀ lockKey, world.flightLocks lockKey = none)
    (ran : (getLikesCountBatch items).run (World.handle setting) environment world =
      some (.ok results, after, spawned)) :
    OwnCounts (world.redis.drop (environment 0).expired) world.likes results ↔
      Unmixed (environment 0).fault (world.redis.drop (environment 0).expired) world.likes
        items := by
  obtain ⟨fetched, _, _, members, rfl⟩ := getLikesCountBatch_alone free ran
  have counted : ∀ order entry,
      entry ∈ (anyOrder order fetched).map (countedIn world.likes) ↔
        ∃ item ∈ missingFrom (countsFound environment items world) items,
          countedIn world.likes item = entry := by
    intro order entry
    rw [List.mem_map]
    simp only [(anyOrder_perm order fetched).mem_iff, members]
  unfold Unmixed OwnCounts
  simp only [List.mem_append, mem_cachedResults, counted]
  unfold countsFound
  generalize world.redis.drop (environment 0).expired = store
  cases read : RedisLikeRepository.getCountsBatch (environment 0).fault items store with
  | error e =>
      have missing : missingFrom (fun _ => none) items = items := by
        simp [missingFrom]
      simp only [unwrapOr, missing, reduceCtorEq, and_false, false_or]
      constructor
      · intro own item member
        exact own (countedIn world.likes item) ⟨item, member, rfl⟩
      · rintro own _ ⟨item, member, rfl⟩
        exact own item member
  | ok counts =>
      obtain ⟨sound, complete⟩ := getCountsBatch_read read
      simp only [unwrapOr]
      constructor
      · intro own item member other among sameId count cached
        obtain ⟨value, found⟩ := Option.isSome_iff_exists.mp
          (complete other among cached.present)
        have ofOther := own ⟨other.contentType, other.contentId, value⟩ (.inl ⟨among, found⟩)
        obtain rfl := OwnCount.unique cached ofOther
        rw [sameId] at found
        exact own ⟨item.contentType, item.contentId, value⟩ (.inl ⟨member, found⟩)
      · rintro unmixed entry (⟨member, found⟩ | ⟨item, missing, rfl⟩)
        · obtain ⟨other, among, sameId, cached⟩ := sound _ _ found
          exact unmixed _ member other among sameId _ cached
        · obtain ⟨member, absent⟩ := List.mem_filter.mp missing
          have uncached : store (formatCountKey item.contentType item.contentId) = none := by
            by_contra present
            rw [Option.isNone_iff_eq_none] at absent
            have found := complete item member present
            rw [absent] at found
            cases found
          unfold OwnCount countedIn
          rw [uncached]

/-- The same id as a post and as a comment; the post has two cached likes. -/
def postCached : World :=
  .new .empty (Redis.empty.put (formatCountKey ⟨"post"⟩ ⟨1⟩) ⟨.int 2, some 300⟩) 0

/-- A batch request that is run to its end in calm surroundings, if it succeeds. -/
noncomputable def batchOf (items : List ContentItem) (world : World) :
    Option (List ContentCount) :=
  ((getLikesCountBatch items).run (World.handle .reference) (fun _ => .calm) world).bind
    fun reached => reached.1.toOption

theorem batchOf_run {items : List ContentItem} {world : World} {results : List ContentCount}
    (comes : batchOf items world = some results) :
    ∃ after spawned, (getLikesCountBatch items).run (World.handle .reference) (fun _ => .calm)
      world = some (.ok results, after, spawned) := by
  obtain ⟨⟨answer, after, spawned⟩, ran, answered⟩ := Option.bind_eq_some_iff.mp comes
  cases answer with
  | error e => cases answered
  | ok found =>
      obtain rfl := Option.some.inj answered
      exact ⟨after, spawned, ran⟩

/-- A cached post and an uncached one with another id. -/
theorem own_counts_of_posts :
    ∃ results after spawned,
      (getLikesCountBatch [⟨⟨"post"⟩, ⟨2⟩⟩, ⟨⟨"post"⟩, ⟨1⟩⟩]).run (World.handle .reference)
        (fun _ => .calm) postCached = some (.ok results, after, spawned) ∧
      (OwnCounts (postCached.redis.drop []) postCached.likes results ↔
        Unmixed none (postCached.redis.drop []) postCached.likes
          [⟨⟨"post"⟩, ⟨2⟩⟩, ⟨⟨"post"⟩, ⟨1⟩⟩]) := by
  obtain ⟨after, spawned, ran⟩ := batchOf_run
    (by decide +kernel : batchOf [⟨⟨"post"⟩, ⟨2⟩⟩, ⟨⟨"post"⟩, ⟨1⟩⟩] postCached =
      some [⟨⟨"post"⟩, ⟨1⟩, 2⟩, ⟨⟨"post"⟩, ⟨2⟩, 0⟩])
  exact ⟨_, after, spawned, ran, own_counts_iff .reference _ (fun _ => .calm) postCached after _
    spawned (fun _ => rfl) ran⟩

/-- The comment has no likes and nothing in the cache; it is reported with the cached likes
of the post. -/
theorem comment_counted_as_post :
    ∃ results after spawned,
      (getLikesCountBatch [⟨⟨"post"⟩, ⟨1⟩⟩, ⟨⟨"comment"⟩, ⟨1⟩⟩]).run (World.handle .reference)
        (fun _ => .calm) postCached = some (.ok results, after, spawned) ∧
      ¬ OwnCounts (postCached.redis.drop []) postCached.likes results := by
  obtain ⟨after, spawned, ran⟩ := batchOf_run
    (by decide +kernel : batchOf [⟨⟨"post"⟩, ⟨1⟩⟩, ⟨⟨"comment"⟩, ⟨1⟩⟩] postCached =
      some [⟨⟨"post"⟩, ⟨1⟩, 2⟩, ⟨⟨"comment"⟩, ⟨1⟩, 2⟩])
  refine ⟨_, after, spawned, ran, ?_⟩
  intro own
  have mixed := own ⟨⟨"comment"⟩, ⟨1⟩, 2⟩ (by simp)
  have absent : postCached.redis.drop [] (formatCountKey ⟨"comment"⟩ ⟨1⟩) = none := by
    decide +kernel
  unfold OwnCount at mixed
  rw [absent] at mixed
  cases mixed

/-! ### Position by position -/

/-- The answer has one entry for each requested item, in the order of the request. -/
def InRequestOrder (items : List ContentItem) (results : List ContentCount) : Prop :=
  results.map (fun entry => (⟨entry.contentType, entry.contentId⟩ : ContentItem)) = items

/-- The batch read of the cache finds a count under the id of the item. -/
def foundIn (counts : CountsById) (item : ContentItem) : Bool :=
  (counts item.contentId).isSome

/-- The items that are found in the cache are asked for before the others, no other item is
asked for twice, and the database returns its rows in the order of the others. -/
structure Orderly (counts : CountsById) (order : List Nat) (items : List ContentItem) :
    Prop where
  foundFirst : items.Pairwise fun item later =>
    foundIn counts item = false → foundIn counts later = false
  othersOnce : items.Pairwise fun item later => foundIn counts item = false → item ≠ later
  rowsInOrder : anyOrder order (items.filter fun item => !foundIn counts item) =
    items.filter fun item => !foundIn counts item

theorem missingFrom_eq (counts : CountsById) (items : List ContentItem) :
    missingFrom counts items = items.filter fun item => !foundIn counts item := by
  simp [missingFrom, foundIn]

/-- The cached results are those of the items that are found. -/
theorem cachedResults_items (counts : CountsById) (items : List ContentItem) :
    (cachedResults counts items).map
        (fun entry => (⟨entry.contentType, entry.contentId⟩ : ContentItem)) =
      items.filter (foundIn counts) := by
  induction items with
  | nil => rfl
  | cons item items inductionHypothesis =>
      unfold cachedResults at inductionHypothesis ⊢
      rw [List.filterMap_cons, List.filter_cons]
      unfold foundIn at inductionHypothesis ⊢
      cases found : counts item.contentId with
      | none => simpa [found] using inductionHypothesis
      | some count => simpa [found] using inductionHypothesis

/-- A batch request that runs alone with nothing in flight, and succeeds, answers position by
position exactly when the items found in the cache come first, the others are all different,
and the database returns their rows in the order of the request. -/
theorem in_request_order_iff (setting : Setting) (items : List ContentItem)
    (environment : Nat → Surroundings) (world after : World) (results : List ContentCount)
    (spawned : List LikeCall) (free : ∀ lockKey, world.flightLocks lockKey = none)
    (ran : (getLikesCountBatch items).run (World.handle setting) environment world =
      some (.ok results, after, spawned)) :
    InRequestOrder items results ↔
      Orderly (countsFound environment items world)
        (environment (1 +
          (missingFrom (countsFound environment items world) items).length)).order items := by
  obtain ⟨fetched, sublist, distinct, members, rfl⟩ := getLikesCountBatch_alone free ran
  generalize countsFound environment items world = counts at *
  generalize (environment (1 + (missingFrom counts items).length)).order = order
  rw [missingFrom_eq] at sublist members
  have perm := anyOrder_perm order fetched
  have shown : ((cachedResults counts items ++
      (anyOrder order fetched).map (countedIn world.likes)).map
        fun entry => (⟨entry.contentType, entry.contentId⟩ : ContentItem)) =
      items.filter (foundIn counts) ++ anyOrder order fetched := by
    rw [List.map_append, cachedResults_items, List.map_map]
    exact congrArg _ (List.map_id _)
  have others : ∀ item ∈ anyOrder order fetched, foundIn counts item = false := by
    intro item member
    simpa using (List.mem_filter.mp ((members item).mp (perm.mem_iff.mp member))).2
  rw [InRequestOrder, shown, filter_append_eq_iff others]
  constructor
  · rintro ⟨foundFirst, same⟩
    have whole : fetched = items.filter fun item => !foundIn counts item := by
      apply sublist.eq_of_length
      rw [← same, perm.length_eq]
    refine ⟨foundFirst, nodup_filter_not_iff.mp (whole ▸ distinct), ?_⟩
    rwa [← whole] at same ⊢
  · rintro ⟨foundFirst, othersOnce, rowsInOrder⟩
    have whole : fetched = items.filter fun item => !foundIn counts item := by
      apply sublist.eq_of_length
      exact ((List.perm_ext_iff_of_nodup distinct
        (nodup_filter_not_iff.mpr othersOnce)).mpr members).length_eq
    exact ⟨foundFirst, whole ▸ rowsInOrder⟩

/-- The cached post first, then the other one. -/
theorem in_request_order_of_found_first :
    ∃ results after spawned,
      (getLikesCountBatch [⟨⟨"post"⟩, ⟨1⟩⟩, ⟨⟨"post"⟩, ⟨2⟩⟩]).run (World.handle .reference)
        (fun _ => .calm) postCached = some (.ok results, after, spawned) ∧
      (InRequestOrder [⟨⟨"post"⟩, ⟨1⟩⟩, ⟨⟨"post"⟩, ⟨2⟩⟩] results ↔
        Orderly (countsFound (fun _ => .calm) [⟨⟨"post"⟩, ⟨1⟩⟩, ⟨⟨"post"⟩, ⟨2⟩⟩] postCached) []
          [⟨⟨"post"⟩, ⟨1⟩⟩, ⟨⟨"post"⟩, ⟨2⟩⟩]) := by
  obtain ⟨after, spawned, ran⟩ := batchOf_run
    (by decide +kernel : batchOf [⟨⟨"post"⟩, ⟨1⟩⟩, ⟨⟨"post"⟩, ⟨2⟩⟩] postCached =
      some [⟨⟨"post"⟩, ⟨1⟩, 2⟩, ⟨⟨"post"⟩, ⟨2⟩, 0⟩])
  exact ⟨_, after, spawned, ran, in_request_order_iff .reference _ (fun _ => .calm) postCached
    after _ spawned (fun _ => rfl) ran⟩

/-- The same posts in the other order are answered in the order of the first request. -/
theorem found_first_whatever_asked :
    ∃ results after spawned,
      (getLikesCountBatch [⟨⟨"post"⟩, ⟨2⟩⟩, ⟨⟨"post"⟩, ⟨1⟩⟩]).run (World.handle .reference)
        (fun _ => .calm) postCached = some (.ok results, after, spawned) ∧
      ¬ InRequestOrder [⟨⟨"post"⟩, ⟨2⟩⟩, ⟨⟨"post"⟩, ⟨1⟩⟩] results := by
  obtain ⟨after, spawned, ran⟩ := batchOf_run
    (by decide +kernel : batchOf [⟨⟨"post"⟩, ⟨2⟩⟩, ⟨⟨"post"⟩, ⟨1⟩⟩] postCached =
      some [⟨⟨"post"⟩, ⟨1⟩, 2⟩, ⟨⟨"post"⟩, ⟨2⟩, 0⟩])
  refine ⟨_, after, spawned, ran, ?_⟩
  unfold InRequestOrder
  decide

end SocialApi
