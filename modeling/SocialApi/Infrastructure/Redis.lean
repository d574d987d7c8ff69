/-
Module: SocialApi.Infrastructure.Redis
Purpose: The key space of Redis, and the commands RedisLikeRepository sends to it.
Trusted boundary: human-reviewed model of redis/like_repository.rs, of the
  documented effect of each command and of how the client reads its reply; a
  time to live only records when a key is due, and that a key leaves is a step
  of the surroundings
Main exports:
  Redis, Config, RedisLikeRepository.formatCountKey, increment, decrement,
  setValue, getCount, getCountsBatch, setCountsBatch, getLeaderboardWithCanary,
  setLeaderboardWithCanary, acquireRefreshLock, publishLikeEvent, getString,
  setString
-/
import SocialApi.Infrastructure.Postgres

namespace SocialApi

/-- A stored value: a number in decimal, or any other text. -/
inductive RedisValue where
  | int (n : Int)
  | text (s : String)
deriving DecidableEq, Repr

/-- A stored value with the second it is due to expire at. -/
structure RedisEntry where
  value : RedisValue
  deadline : Option Int
deriving DecidableEq, Repr

/-- The key space. -/
abbrev Redis := String → Option RedisEntry

namespace Redis

def empty : Redis := fun _ => none

def put (store : Redis) (key : String) (entry : RedisEntry) : Redis :=
  Function.update store key (some entry)

/-- The keys that have left the store: due, evicted, or lost in a restart. -/
def drop (store : Redis) (keys : List String) : Redis :=
  fun key => if key ∈ keys then none else store key

/-- The number under a key. -/
def number (store : Redis) (key : String) : Option Int :=
  match store key with
  | some ⟨.int n, _⟩ => some n
  | _ => none

/-- The key is absent or holds a number. -/
def Numeric (store : Redis) (key : String) : Prop :=
  ∀ text deadline, store key ≠ some ⟨.text text, deadline⟩

theorem number_eq_none_iff {store : Redis} {key : String}
    (numeric : store.Numeric key) : store.number key = none ↔ store key = none := by
  unfold number
  cases present : store key with
  | none => simp
  | some entry =>
      obtain ⟨value, deadline⟩ := entry
      cases value with
      | int n => simp
      | text text => exact absurd present (numeric text deadline)

theorem numeric_of_number {store : Redis} {key : String} {n : Int}
    (present : store.number key = some n) : store.Numeric key := by
  intro text deadline found
  unfold number at present
  rw [found] at present
  cases present

/-- What a numeric key holds is its number. -/
theorem number_value_iff {store : Redis} {key : String} (numeric : store.Numeric key)
    {n : Int} : (∀ entry, store key = some entry → entry.value = .int n) ↔
      ∀ cached, store.number key = some cached → cached = n := by
  unfold number
  cases present : store key with
  | none => simp
  | some entry =>
      obtain ⟨value, deadline⟩ := entry
      cases value with
      | int m => simp
      | text text => exact absurd present (numeric text deadline)

/-- `INCRBY`: an absent key counts from zero, and a key keeps its deadline. -/
def incrBy (store : Redis) (key : String) (delta : Int) :
    Except String (Int × Redis) :=
  match store key with
  | none => .ok (delta, store.put key ⟨.int delta, none⟩)
  | some ⟨.int n, deadline⟩ =>
      .ok (n + delta, store.put key ⟨.int (n + delta), deadline⟩)
  | some ⟨.text _, _⟩ => .error "value is not an integer or out of range"

/-- `EXPIRE`; a key whose time is already over is deleted. -/
def expire (store : Redis) (key : String) (now ttl : Int) : Redis :=
  match store key with
  | none => store
  | some entry =>
      if 0 < ttl then store.put key { entry with deadline := some (now + ttl) }
      else store.drop [key]

@[simp] theorem put_self (store : Redis) (key : String) (entry : RedisEntry) :
    store.put key entry key = some entry := by simp [put]

@[simp] theorem put_of_ne (store : Redis) {key other : String} (entry : RedisEntry)
    (ne : other ≠ key) : store.put key entry other = store other := by
  simp [put, ne]

@[simp] theorem drop_nil (store : Redis) : store.drop [] = store := by
  funext key
  simp [drop]

theorem drop_of_not_mem (store : Redis) {keys : List String} {key : String}
    (kept : key ∉ keys) : store.drop keys key = store key := by
  simp [drop, kept]

theorem drop_eq_none_iff {store : Redis} {keys : List String} {key : String} :
    store.drop keys key = none ↔ key ∈ keys ∨ store key = none := by
  by_cases gone : key ∈ keys <;> simp [drop, gone]

theorem drop_some {store : Redis} {keys : List String} {key : String}
    {entry : RedisEntry} (present : store.drop keys key = some entry) :
    store key = some entry := by
  unfold drop at present
  split at present
  · cases present
  · exact present

theorem expire_of_ne (store : Redis) {key other : String} (now ttl : Int)
    (ne : other ≠ key) : store.expire key now ttl other = store other := by
  unfold expire
  cases store key with
  | none => rfl
  | some entry =>
      by_cases positive : 0 < ttl
      · simp only [if_pos positive]
        exact put_of_ne store _ ne
      · simp only [if_neg positive]
        exact drop_of_not_mem store (by simpa using ne)

end Redis

/-- The settings of `Config` that the repository reads. -/
structure Config where
  cacheTtlLikeCountsSecs : Int
  cacheTtlContentValidationSecs : Int
deriving DecidableEq, Repr

/-- A third-party text form of a value: what it is written as, and a reader that
gives back what was written. -/
structure JsonText (α : Type) where
  toText : α → String
  fromText : String → Option α
  readBack : ∀ value, fromText (toText value) = some value

/-- An instance of the assumptions: values in unary. -/
noncomputable def JsonText.reference (α : Type) [Countable α] : JsonText α :=
  letI := Encodable.ofCountable α
  { toText := fun value => String.ofList (List.replicate (Encodable.encode value) '1')
    fromText := fun text => Encodable.decode text.length
    readBack := by simp }

/-- The text form that is right because it never writes two values alike. -/
noncomputable def JsonText.ofInjective {α : Type} (toText : α → String)
    (injective : Function.Injective toText) : JsonText α where
  toText := toText
  fromText := Function.partialInv toText
  readBack := Function.partialInv_left injective

/-- The text form that writes the given leaderboard as serde_json does, and the others in
unary. -/
noncomputable def JsonText.showing (shown : List TopLikeItem) :
    JsonText (List TopLikeItem) where
  toText items :=
    if items = shown then TopLikeItem.plainJson shown else (reference _).toText items
  fromText text :=
    if text = TopLikeItem.plainJson shown then some shown else (reference _).fromText text
  readBack := by
    intro items
    by_cases same : items = shown
    · rw [if_pos same, if_pos rfl, same]
    · have differs : (reference _).toText items ≠ TopLikeItem.plainJson shown := by
        intro texts
        have chars := congrArg (fun text : String => text.toList.head?) texts
        simp only [reference, TopLikeItem.plainJson, String.toList_append,
          String.toList_ofList, List.head?_replicate] at chars
        split at chars <;> simp at chars
      rw [if_neg same, if_neg differs]
      exact (reference _).readBack items

namespace RedisLikeRepository

def sseEventsKey : String := "sse:events"

inductive LeadKeyType where
  | data
  | canary
  | lock
deriving DecidableEq, Repr

def LeadKeyType.asStr : LeadKeyType → String
  | .data => "data"
  | .canary => "canary"
  | .lock => "lock"

/-- `get_ttl_for_key`: the part before the first colon decides. -/
def getTtlForKey (config : Config) (key : String) : Int :=
  match String.ofList (key.toList.takeWhile (· ≠ ':')) with
  | "count" => config.cacheTtlLikeCountsSecs
  | "leaderboard" => config.cacheTtlLikeCountsSecs
  | "validation" => config.cacheTtlContentValidationSecs
  | _ => 300

def formatCountKey (contentType : ContentType) (contentId : ContentId) : String :=
  "count:" ++ contentType.asStr ++ ":" ++ contentId.uuid.text

def formatChannelKey (contentType : ContentType) (contentId : ContentId) : String :=
  sseEventsKey ++ ":" ++ contentType.asStr ++ ":" ++ contentId.uuid.text

def formatLeadKey (kind : LeadKeyType) (window : String) (contentType : ContentType) :
    String :=
  "leaderboard:" ++ kind.asStr ++ ":" ++ window ++ ":" ++ contentType.asStr

/-- The error of a request that was not answered. -/
def faultError : Fault → DomainError
  | .noConnection => .cacheOffline
  | .failed display _ => .cacheError display

/-- Reading the text of a key as `u64` fails on a negative number. -/
def asU64 (n : Int) : Except DomainError Nat :=
  if 0 ≤ n then .ok n.toNat
  else .error (.cacheError "Response was of incompatible type")

@[simp] theorem asU64_natCast (n : Nat) : asU64 (n : Int) = .ok n := by simp [asU64]

/-- An integer reply, which has 64 bits, is cast to `u64`: a negative one wraps. -/
def replyAsU64 (n : Int) : Nat := if 0 ≤ n then n.toNat else (n + 2 ^ 64).toNat

@[simp] theorem replyAsU64_natCast (n : Nat) : replyAsU64 (n : Int) = n := by simp [replyAsU64]

/-- On the 64 bits that a reply has, the cast is the remainder. -/
theorem replyAsU64_eq_emod {n : Int} (least : -2 ^ 63 ≤ n) (most : n < 2 ^ 63) :
    replyAsU64 n = (n % 2 ^ 64).toNat := by
  unfold replyAsU64
  split
  · omega
  · omega

example : replyAsU64 (-1) = 2 ^ 64 - 1 := by decide

/-- Reading a reply as `Option<u64>`. -/
def asOptionU64 : Option RedisEntry → Except DomainError (Option Nat)
  | none => .ok none
  | some ⟨.int n, _⟩ => (asU64 n).map some
  | some ⟨.text _, _⟩ => .error (.cacheError "Response was of incompatible type")

/-- An entry that is read as a count is one. -/
theorem asOptionU64_some {present : Option RedisEntry} {count : Nat}
    (read : asOptionU64 present = .ok (some count)) :
    ∃ entry, present = some entry ∧ entry.value = .int count := by
  match present with
  | none => cases read
  | some ⟨.text text, _⟩ => cases read
  | some ⟨.int n, deadline⟩ =>
      refine ⟨_, rfl, ?_⟩
      by_cases nonneg : 0 ≤ n
      · simp only [asOptionU64, asU64, if_pos nonneg] at read
        obtain rfl : n.toNat = count := Option.some.inj (Except.ok.inj read)
        rw [Int.toNat_of_nonneg nonneg]
      · simp only [asOptionU64, asU64, if_neg nonneg] at read
        cases read

/-- Only a key that is absent is read as no count. -/
theorem asOptionU64_none {present : Option RedisEntry}
    (read : asOptionU64 present = .ok none) : present = none := by
  match present with
  | none => rfl
  | some ⟨.text text, _⟩ => cases read
  | some ⟨.int n, deadline⟩ =>
      by_cases nonneg : 0 ≤ n
      · simp only [asOptionU64, asU64, if_pos nonneg] at read
        cases read
      · simp only [asOptionU64, asU64, if_neg nonneg] at read
        cases read

/-- The pipeline `INCRBY key delta; EXPIRE key ttl` that `increment` and
`decrement` share.  The commands have run when the reply is cast to `u64`. -/
def changeCount (delta : Int) (config : Config) (fault : Option Fault) (now : Int)
    (contentType : ContentType) (contentId : ContentId) (store : Redis) :
    Except DomainError Nat × Redis :=
  let countKey := formatCountKey contentType contentId
  let ttl := getTtlForKey config countKey
  match fault with
  | some e => (.error (faultError e), store)
  | none =>
      match store.incrBy countKey delta with
      | .error e => (.error (.cacheError e), store.expire countKey now ttl)
      | .ok (count, counted) => (.ok (replyAsU64 count), counted.expire countKey now ttl)

def increment := changeCount 1

def decrement := changeCount (-1)

/-- `SETEX` with the configured time to live, which Redis wants positive. -/
def setValue (config : Config) (fault : Option Fault) (now : Int)
    (contentType : ContentType) (contentId : ContentId) (value : Nat) (store : Redis) :
    Except DomainError Unit × Redis :=
  let countKey := formatCountKey contentType contentId
  let ttl := getTtlForKey config countKey
  match fault with
  | some e => (.error (faultError e), store)
  | none =>
      if 0 < ttl then (.ok (), store.put countKey ⟨.int value, some (now + ttl)⟩)
      else (.error (.cacheError "invalid expire time in 'setex' command"), store)

def getCount (fault : Option Fault) (contentType : ContentType)
    (contentId : ContentId) (store : Redis) : Except DomainError (Option Nat) :=
  match fault with
  | some e => .error (faultError e)
  | none => asOptionU64 (store (formatCountKey contentType contentId))

/-- `HashMap<ContentId, u64>` -/
abbrev CountsById := ContentId → Option Nat

/-- Collect the present counts of a batch under their content id; a later item
with the same id replaces an earlier one. -/
def collectCounts (store : Redis) : List ContentItem → CountsById →
    Except DomainError CountsById
  | [], counts => .ok counts
  | item :: items, counts =>
      match asOptionU64 (store (formatCountKey item.contentType item.contentId)) with
      | .error e => .error e
      | .ok none => collectCounts store items counts
      | .ok (some count) =>
          collectCounts store items (Function.update counts item.contentId (some count))

/-- `MGET`; an empty batch asks nothing. -/
def getCountsBatch (fault : Option Fault) (items : List ContentItem) (store : Redis) :
    Except DomainError CountsById :=
  match items, fault with
  | [], _ => .ok fun _ => none
  | _, some e => .error (faultError e)
  | _, none => collectCounts store items fun _ => none

/-- The `SETEX` of one count of a batch, with its own time to live. -/
def putCount (now : Int) (store : Redis) (entry : ContentCount) : Redis :=
  store.put (formatCountKey entry.contentType entry.contentId)
    ⟨.int entry.count, some (now + 3600)⟩

/-- `SETEX` for every count of the batch; an empty batch sends nothing. -/
def setCountsBatch (fault : Option Fault) (now : Int) (counts : List ContentCount)
    (store : Redis) : Except DomainError Unit × Redis :=
  match counts, fault with
  | [], _ => (.ok (), store)
  | _, some e => (.error (faultError e), store)
  | _, none => (.ok (), counts.foldl (putCount now) store)

/-- `MGET data canary`: the stored leaderboard, if it can be read, and whether
the canary is alive. -/
def getLeaderboardWithCanary (json : JsonText (List TopLikeItem))
    (fault : Option Fault) (window : String) (contentType : ContentType)
    (store : Redis) : Except DomainError (Option (List TopLikeItem) × Bool) :=
  match fault with
  | some e => .error (faultError e)
  | none =>
      let items := match store (formatLeadKey .data window contentType) with
        | some ⟨.text text, _⟩ => json.fromText text
        | _ => none
      .ok (items, (store (formatLeadKey .canary window contentType)).isSome)

/-- `SET data; SETEX canary` -/
def setLeaderboardWithCanary (json : JsonText (List TopLikeItem))
    (fault : Option Fault) (now : Int) (window : String) (contentType : ContentType)
    (items : List TopLikeItem) (canaryTtl : Nat) (store : Redis) :
    Except DomainError Unit × Redis :=
  match fault with
  | some e => (.error (faultError e), store)
  | none => (.ok (), (store.put (formatLeadKey .data window contentType)
      ⟨.text (json.toText items), none⟩).put
        (formatLeadKey .canary window contentType)
        ⟨.text "alive", some (now + canaryTtl)⟩)

/-- `SET lock NX EX 10` -/
def acquireRefreshLock (fault : Option Fault) (now : Int) (window : String)
    (contentType : ContentType) (store : Redis) : Except DomainError Bool × Redis :=
  let lockKey := formatLeadKey .lock window contentType
  match fault with
  | some e => (.error (faultError e), store)
  | none =>
      match store lockKey with
      | some _ => (.ok false, store)
      | none => (.ok true, store.put lockKey ⟨.text "locked", some (now + 10)⟩)

/-- `PUBLISH channel payload`; the message sent, if any. -/
def publishLikeEvent (toText : SseLikeEvent → String) (fault : Option Fault)
    (event : SseLikeEvent) : Except DomainError (String × String) :=
  match fault, event.contentType, event.contentId with
  | some .noConnection, _, _ => .error .cacheOffline
  | _, none, _ => .error .sseKeyError
  | _, _, none => .error .sseKeyError
  | some (.failed display _), _, _ => .error (.cacheError display)
  | none, some contentType, some contentId =>
      .ok (formatChannelKey contentType contentId, toText event)

/-- `GET` of a text value. -/
def getString (fault : Option Fault) (key : String) (store : Redis) :
    Except DomainError (Option String) :=
  match fault with
  | some e => .error (faultError e)
  | none =>
      match store key with
      | none => .ok none
      | some ⟨.text text, _⟩ => .ok (some text)
      | some ⟨.int n, _⟩ => .ok (some (toString n))

/-- `SETEX` of a text value. -/
def setString (fault : Option Fault) (now : Int) (key value : String) (ttl : Nat)
    (store : Redis) : Except DomainError Unit × Redis :=
  match fault with
  | some e => (.error (faultError e), store)
  | none => (.ok (), store.put key ⟨.text value, some (now + ttl)⟩)

/-- An entry after a `SETEX` was there before, or is the one it put. -/
theorem setString_present {fault : Option Fault} {now : Int} {key value : String}
    {ttl : Nat} {store : Redis} {other : String} {entry : RedisEntry}
    (present : (setString fault now key value ttl store).2 other = some entry) :
    store other = some entry ∨
      (other = key ∧ entry = ⟨.text value, some (now + ttl)⟩) := by
  cases fault with
  | some e => exact .inl present
  | none =>
      simp only [setString] at present
      by_cases same : other = key
      · subst same
        rw [Redis.put_self, Option.some.injEq] at present
        exact .inr ⟨rfl, present.symm⟩
      · rw [Redis.put_of_ne _ _ same] at present
        exact .inl present

/-- A text that is read is there, if a text is. -/
theorem getString_some {fault : Option Fault} {key text : String} {store : Redis}
    (read : getString fault key store = .ok (some text)) :
    ∃ entry, store key = some entry ∧
      ∀ stored, entry.value = .text stored → stored = text := by
  unfold getString at read
  cases fault with
  | some e => cases read
  | none =>
      cases found : store key with
      | none =>
          simp only [found] at read
          cases read
      | some entry =>
          obtain ⟨value, deadline⟩ := entry
          simp only [found] at read
          refine ⟨_, rfl, ?_⟩
          rintro stored rfl
          exact Option.some.inj (Except.ok.inj read)

/-- A batch of counts leaves under a key the last of its counts for that key. -/
theorem foldl_putCount (now : Int) (store : Redis) (counts : List ContentCount)
    (contentType : ContentType) (contentId : ContentId) :
    counts.foldl (putCount now) store (formatCountKey contentType contentId) =
      match (counts.filter fun entry =>
          entry.contentType = contentType ∧ entry.contentId = contentId).getLast? with
      | none => store (formatCountKey contentType contentId)
      | some entry => some ⟨.int entry.count, some (now + 3600)⟩ := by
  induction counts using List.reverseRecOn with
  | nil => rfl
  | append_singleton counts entry inductionHypothesis =>
      rw [List.foldl_append, List.foldl_cons, List.foldl_nil, List.filter_append]
      by_cases here : entry.contentType = contentType ∧ entry.contentId = contentId
      · obtain ⟨rfl, rfl⟩ := here
        simp [putCount]
      · have other : formatCountKey contentType contentId ≠
            formatCountKey entry.contentType entry.contentId := by
          intro same
          obtain ⟨sameType, sameId⟩ := ContentId.key_inj "count:" same
          exact here ⟨sameType.symm, sameId.symm⟩
        rw [putCount, Redis.put_of_ne _ _ other, inductionHypothesis]
        simp [here]

/-! ### Keys -/

theorem getTtlForKey_count (config : Config) (contentType : ContentType)
    (contentId : ContentId) :
    getTtlForKey config (formatCountKey contentType contentId) =
      config.cacheTtlLikeCountsSecs := by
  have front : (formatCountKey contentType contentId).toList.takeWhile (· ≠ ':') =
      "count".toList := by
    simp only [formatCountKey, String.toList_append]
    rfl
  unfold getTtlForKey
  rw [front]
  rfl

/-- A count key names one content. -/
theorem formatCountKey_inj {contentType otherType : ContentType}
    {contentId otherId : ContentId}
    (same : formatCountKey contentType contentId = formatCountKey otherType otherId) :
    contentType = otherType ∧ contentId = otherId :=
  ContentId.key_inj "count:" same

/-! ### What the count commands do when Redis answers -/

/-- On an absent or numeric key, the pipeline counts from zero or from the
number there. -/
theorem changeCount_eq {delta : Int} {config : Config} {now : Int}
    {contentType : ContentType} {contentId : ContentId} {store : Redis}
    (positive : 0 < config.cacheTtlLikeCountsSecs)
    (numeric : store.Numeric (formatCountKey contentType contentId)) :
    changeCount delta config none now contentType contentId store =
      (.ok (replyAsU64
          ((store.number (formatCountKey contentType contentId)).getD 0 + delta)),
        store.put (formatCountKey contentType contentId)
          ⟨.int ((store.number (formatCountKey contentType contentId)).getD 0 + delta),
            some (now + config.cacheTtlLikeCountsSecs)⟩) := by
  unfold changeCount
  simp only [getTtlForKey_count]
  generalize formatCountKey contentType contentId = key at numeric ⊢
  cases found : store key with
  | none =>
      simp [Redis.incrBy, Redis.number, Redis.expire, Redis.put, found, positive]
  | some entry =>
      obtain ⟨value, deadline⟩ := entry
      cases value with
      | int n =>
          simp [Redis.incrBy, Redis.number, Redis.expire, Redis.put, found, positive]
      | text text => exact absurd found (numeric text deadline)

/-- With no time to live the pipeline deletes the key that it counts under. -/
theorem changeCount_untimed {delta : Int} {config : Config} {now : Int}
    {contentType : ContentType} {contentId : ContentId} {store : Redis}
    (untimed : ¬ 0 < config.cacheTtlLikeCountsSecs) :
    (changeCount delta config none now contentType contentId store).2
      (formatCountKey contentType contentId) = none := by
  unfold changeCount
  simp only [getTtlForKey_count]
  generalize formatCountKey contentType contentId = key
  cases found : store key with
  | none => simp [Redis.incrBy, Redis.expire, Redis.put, Redis.drop, found, untimed]
  | some entry =>
      obtain ⟨value, deadline⟩ := entry
      cases value with
      | int n => simp [Redis.incrBy, Redis.expire, Redis.put, Redis.drop, found, untimed]
      | text text => simp [Redis.incrBy, Redis.expire, Redis.drop, found, untimed]

theorem setValue_eq {config : Config} {now : Int} {contentType : ContentType}
    {contentId : ContentId} {value : Nat} {store : Redis}
    (positive : 0 < config.cacheTtlLikeCountsSecs) :
    setValue config none now contentType contentId value store =
      (.ok (), store.put (formatCountKey contentType contentId)
        ⟨.int value, some (now + config.cacheTtlLikeCountsSecs)⟩) := by
  simp [setValue, getTtlForKey_count, positive]

theorem getCount_eq {contentType : ContentType} {contentId : ContentId}
    {store : Redis} (numeric : store.Numeric (formatCountKey contentType contentId)) :
    getCount none contentType contentId store =
      match store.number (formatCountKey contentType contentId) with
      | none => .ok none
      | some n => (asU64 n).map some := by
  unfold getCount Redis.number
  cases found : store (formatCountKey contentType contentId) with
  | none => rfl
  | some entry =>
      obtain ⟨value, deadline⟩ := entry
      cases value with
      | int n => rfl
      | text text => exact absurd found (numeric text deadline)

/-- The pipeline leaves every other key alone, also where it fails. -/
theorem changeCount_other {delta : Int} {config : Config} {fault : Option Fault}
    {now : Int} {contentType : ContentType} {contentId : ContentId} {store : Redis}
    {other : String} (ne : other ≠ formatCountKey contentType contentId) :
    (changeCount delta config fault now contentType contentId store).2 other =
      store other := by
  unfold changeCount
  cases fault with
  | some e => rfl
  | none =>
      cases counted : store.incrBy (formatCountKey contentType contentId) delta with
      | error e =>
          simp only [counted]
          exact Redis.expire_of_ne store _ _ ne
      | ok reply =>
          obtain ⟨count, next⟩ := reply
          simp only [counted]
          rw [Redis.expire_of_ne next _ _ ne]
          unfold Redis.incrBy at counted
          split at counted
          · cases counted
            exact Redis.put_of_ne store _ ne
          · cases counted
            exact Redis.put_of_ne store _ ne
          · cases counted

/-- So does `SETEX`. -/
theorem setValue_other {config : Config} {fault : Option Fault} {now : Int}
    {contentType : ContentType} {contentId : ContentId} {value : Nat} {store : Redis}
    {other : String} (ne : other ≠ formatCountKey contentType contentId) :
    (setValue config fault now contentType contentId value store).2 other =
      store other := by
  unfold setValue
  cases fault with
  | some e => rfl
  | none =>
      dsimp only
      split
      · exact Redis.put_of_ne store _ ne
      · rfl

/-- No count key is a leaderboard key. -/
theorem formatLeadKey_ne_formatCountKey (kind : LeadKeyType) (window : String)
    (leadType contentType : ContentType) (contentId : ContentId) :
    formatLeadKey kind window leadType ≠ formatCountKey contentType contentId := by
  intro same
  have chars := congrArg String.toList same
  unfold formatLeadKey formatCountKey at chars
  simp only [String.toList_append] at chars
  have first : some 'l' = some 'c' := congrArg List.head? chars
  exact absurd first (by decide)

theorem setLeaderboardWithCanary_count (json : JsonText (List TopLikeItem))
    (fault : Option Fault) (now : Int) (window : String) (leadType : ContentType)
    (items : List TopLikeItem) (canaryTtl : Nat) (store : Redis)
    (contentType : ContentType) (contentId : ContentId) :
    (setLeaderboardWithCanary json fault now window leadType items canaryTtl store).2
        (formatCountKey contentType contentId) =
      store (formatCountKey contentType contentId) := by
  cases fault with
  | some e => rfl
  | none =>
      simp only [setLeaderboardWithCanary]
      rw [Redis.put_of_ne _ _ (formatLeadKey_ne_formatCountKey _ _ _ _ _).symm,
        Redis.put_of_ne _ _ (formatLeadKey_ne_formatCountKey _ _ _ _ _).symm]

theorem acquireRefreshLock_count (fault : Option Fault) (now : Int) (window : String)
    (leadType : ContentType) (store : Redis) (contentType : ContentType)
    (contentId : ContentId) :
    (acquireRefreshLock fault now window leadType store).2
        (formatCountKey contentType contentId) =
      store (formatCountKey contentType contentId) := by
  cases fault with
  | some e => rfl
  | none =>
      simp only [acquireRefreshLock]
      split
      · rfl
      · dsimp only
        rw [Redis.put_of_ne _ _ (formatLeadKey_ne_formatCountKey _ _ _ _ _).symm]

/-- A batch of counts leaves every key alone that is no count key. -/
theorem setCountsBatch_other {fault : Option Fault} {now : Int}
    {counts : List ContentCount} {store : Redis} {other : String}
    (ne : ∀ contentType contentId, other ≠ formatCountKey contentType contentId) :
    (setCountsBatch fault now counts store).2 other = store other := by
  unfold setCountsBatch
  split
  · rfl
  · rfl
  · next nonempty =>
    dsimp only
    clear nonempty
    induction counts using List.reverseRecOn with
    | nil => rfl
    | append_singleton counts entry inductionHypothesis =>
        rw [List.foldl_append, List.foldl_cons, List.foldl_nil, putCount,
          Redis.put_of_ne _ _ (ne _ _)]
        exact inductionHypothesis

/-! ### Leaderboard keys -/

theorem formatLeadKey_toList (kind : LeadKeyType) (window : String)
    (contentType : ContentType) :
    (formatLeadKey kind window contentType).toList = "leaderboard:".toList ++
      (kind.asStr.toList ++ ':' :: (window.toList ++ ':' :: contentType.asStr.toList)) := by
  unfold formatLeadKey
  rw [String.toList_append, String.toList_append, String.toList_append,
    String.toList_append, String.toList_append, List.append_assoc, List.append_assoc,
    List.append_assoc, List.append_assoc]
  rfl

/-- The first colon ends the part before it. -/
private theorem before_colon_inj {front otherFront back otherBack : List Char}
    (plain : ':' ∉ front) (plainToo : ':' ∉ otherFront)
    (same : front ++ ':' :: back = otherFront ++ ':' :: otherBack) :
    front = otherFront ∧ back = otherBack := by
  induction front generalizing otherFront with
  | nil =>
      cases otherFront with
      | nil => exact ⟨rfl, (List.cons.inj same).2⟩
      | cons first rest =>
          obtain ⟨rfl, _⟩ := List.cons.inj same
          exact absurd List.mem_cons_self plainToo
  | cons first rest inductionHypothesis =>
      cases otherFront with
      | nil =>
          obtain ⟨rfl, _⟩ := List.cons.inj same
          exact absurd List.mem_cons_self plain
      | cons otherFirst otherRest =>
          rw [List.mem_cons, not_or] at plain plainToo
          obtain ⟨rfl, tails⟩ := List.cons.inj same
          obtain ⟨rfl, backs⟩ := inductionHypothesis plain.2 plainToo.2 tails
          exact ⟨rfl, backs⟩

private theorem LeadKeyType.colon_notMem (kind : LeadKeyType) :
    ':' ∉ kind.asStr.toList := by
  cases kind <;> decide

private theorem LeadKeyType.asStr_inj {kind other : LeadKeyType}
    (same : kind.asStr = other.asStr) : kind = other := by
  revert same
  cases kind <;> cases other <;> decide

/-- A leaderboard key names its kind, and what stands behind the kind. -/
theorem formatLeadKey_split {kind otherKind : LeadKeyType} {window otherWindow : String}
    {contentType otherType : ContentType}
    (same : formatLeadKey kind window contentType =
      formatLeadKey otherKind otherWindow otherType) :
    kind = otherKind ∧ window.toList ++ ':' :: contentType.asStr.toList =
      otherWindow.toList ++ ':' :: otherType.asStr.toList := by
  have chars := congrArg String.toList same
  rw [formatLeadKey_toList, formatLeadKey_toList] at chars
  obtain ⟨kinds, rest⟩ := before_colon_inj kind.colon_notMem otherKind.colon_notMem
    (List.append_cancel_left chars)
  exact ⟨LeadKeyType.asStr_inj (String.toList_inj.mp kinds), rest⟩

/-- A leaderboard key names its window and content type, if windows have no colon. -/
theorem formatLeadKey_inj {kind otherKind : LeadKeyType} {window otherWindow : String}
    {contentType otherType : ContentType} (plain : ':' ∉ window.toList)
    (plainToo : ':' ∉ otherWindow.toList)
    (same : formatLeadKey kind window contentType =
      formatLeadKey otherKind otherWindow otherType) :
    window = otherWindow ∧ contentType = otherType := by
  obtain ⟨windows, types⟩ := before_colon_inj plain plainToo (formatLeadKey_split same).2
  refine ⟨String.toList_inj.mp windows, ?_⟩
  cases contentType
  cases otherType
  cases String.toList_inj.mp types
  rfl

/-- Keys of different kinds differ. -/
theorem formatLeadKey_ne_kind {kind otherKind : LeadKeyType} (ne : kind ≠ otherKind)
    {window otherWindow : String} {contentType otherType : ContentType} :
    formatLeadKey kind window contentType ≠
      formatLeadKey otherKind otherWindow otherType :=
  fun same => ne (formatLeadKey_split same).1

/-- The lock of a refresh stands under a key of its own. -/
theorem acquireRefreshLock_other (fault : Option Fault) (now : Int)
    (window otherWindow : String) (contentType otherType : ContentType) (store : Redis)
    {kind : LeadKeyType} (notLock : kind ≠ .lock) :
    (acquireRefreshLock fault now window contentType store).2
        (formatLeadKey kind otherWindow otherType) =
      store (formatLeadKey kind otherWindow otherType) := by
  unfold acquireRefreshLock
  cases fault with
  | some e => rfl
  | none =>
      dsimp only
      split
      · rfl
      · exact Redis.put_of_ne _ _ (formatLeadKey_ne_kind notLock)

/-- A stored leaderboard replaces the one for its window and content type. -/
theorem setLeaderboardWithCanary_data (json : JsonText (List TopLikeItem)) (now : Int)
    {window otherWindow : String} {contentType otherType : ContentType}
    (items : List TopLikeItem) (canaryTtl : Nat) (store : Redis)
    (plain : ':' ∉ window.toList) (plainToo : ':' ∉ otherWindow.toList) :
    (setLeaderboardWithCanary json none now window contentType items canaryTtl store).2
        (formatLeadKey .data otherWindow otherType) =
      if window = otherWindow ∧ contentType = otherType then
        some ⟨.text (json.toText items), none⟩
      else store (formatLeadKey .data otherWindow otherType) := by
  have canary : formatLeadKey .data otherWindow otherType ≠
      formatLeadKey .canary window contentType := by
    apply formatLeadKey_ne_kind
    decide
  simp only [setLeaderboardWithCanary]
  rw [Redis.put_of_ne _ _ canary]
  split
  · next same =>
      obtain ⟨rfl, rfl⟩ := same
      exact Redis.put_self _ _ _
  · next other =>
      apply Redis.put_of_ne
      intro same
      obtain ⟨rfl, rfl⟩ := formatLeadKey_inj plainToo plain same
      exact other ⟨rfl, rfl⟩

/-- The canary of a stored leaderboard is renewed. -/
theorem setLeaderboardWithCanary_canary (json : JsonText (List TopLikeItem)) (now : Int)
    {window otherWindow : String} {contentType otherType : ContentType}
    (items : List TopLikeItem) (canaryTtl : Nat) (store : Redis)
    (plain : ':' ∉ window.toList) (plainToo : ':' ∉ otherWindow.toList) :
    (setLeaderboardWithCanary json none now window contentType items canaryTtl store).2
        (formatLeadKey .canary otherWindow otherType) =
      if window = otherWindow ∧ contentType = otherType then
        some ⟨.text "alive", some (now + canaryTtl)⟩
      else store (formatLeadKey .canary otherWindow otherType) := by
  have data : formatLeadKey .canary otherWindow otherType ≠
      formatLeadKey .data window contentType := by
    apply formatLeadKey_ne_kind
    decide
  simp only [setLeaderboardWithCanary]
  split
  · next same =>
      obtain ⟨rfl, rfl⟩ := same
      exact Redis.put_self _ _ _
  · next other =>
      rw [Redis.put_of_ne, Redis.put_of_ne _ _ data]
      intro same
      obtain ⟨rfl, rfl⟩ := formatLeadKey_inj plainToo plain same
      exact other ⟨rfl, rfl⟩

/-- A leaderboard is fresh while its canary is alive. -/
theorem getLeaderboardWithCanary_fresh {json : JsonText (List TopLikeItem)}
    {fault : Option Fault} {window : String} {contentType : ContentType} {store : Redis}
    {items : Option (List TopLikeItem)} {fresh : Bool}
    (read : getLeaderboardWithCanary json fault window contentType store =
      .ok (items, fresh)) :
    (store (formatLeadKey .canary window contentType)).isSome = fresh := by
  cases fault with
  | some e => cases read
  | none =>
      simp only [getLeaderboardWithCanary, Except.ok.injEq, Prod.mk.injEq] at read
      exact read.2

/-- A leaderboard that is read is the one there. -/
theorem getLeaderboardWithCanary_items {json : JsonText (List TopLikeItem)}
    {fault : Option Fault} {window : String} {contentType : ContentType} {store : Redis}
    {items : Option (List TopLikeItem)} {fresh : Bool}
    (read : getLeaderboardWithCanary json fault window contentType store =
      .ok (items, fresh)) :
    fault = none ∧ ∀ list, items = some list → ∃ text deadline,
      store (formatLeadKey .data window contentType) = some ⟨.text text, deadline⟩ ∧
        json.fromText text = some list := by
  cases fault with
  | some e => cases read
  | none =>
      refine ⟨rfl, ?_⟩
      rintro list rfl
      simp only [getLeaderboardWithCanary, Except.ok.injEq, Prod.mk.injEq] at read
      obtain ⟨found, _⟩ := read
      split at found
      · next text deadline present => exact ⟨text, deadline, present, found⟩
      · cases found

end RedisLikeRepository

end SocialApi
