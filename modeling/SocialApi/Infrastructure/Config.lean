/-
Module: SocialApi.Infrastructure.Config
Purpose: The settings that the process reads from its environment variables.
Trusted boundary: human-reviewed model of infrastructure/config.rs and of std::env; the
  variables are those after dotenvy has added what stands in a .env file, and how the standard
  library turns a text into lower case is a parameter
Main exports:
  OsString, Environment, Environment.var, contentApisOf, FullConfig, Config.fromEnv,
  RedisLikeRepository.new, WellFormed
-/
import SocialApi.Codec.Decimal
import SocialApi.Infrastructure.Redis

namespace SocialApi

/-! ### Environment variables -/

/-- A text of the operating system, which may be no Unicode. -/
inductive OsString where
  | unicode (text : String)
  | other (bytes : List UInt8)
deriving DecidableEq, Repr

/-- The variables of a process, in the order in which they are listed. -/
abbrev Environment := List (OsString × OsString)

/-- A panic with the message that the source gives it. -/
structure Panic where
  message : String
deriving DecidableEq, Repr

/-- `std::env::var`; a variable that is no Unicode is no text. -/
def Environment.var (env : Environment) (key : String) : Option String :=
  match env.find? fun entry => entry.1 = .unicode key with
  | some (_, .unicode value) => some value
  | _ => none

/-- `expect` on a variable that has to be there; the text of the error is left out behind its
message. -/
def Environment.expect (env : Environment) (key : String) : Except Panic String :=
  match env.var key with
  | some value => .ok value
  | none => .error ⟨key ++ " missing"⟩

def Environment.getU64 (env : Environment) (key default : String) :
    Except Panic (Fin (2 ^ 64)) :=
  match Decimal.unsigned? 64 ((env.var key).getD default) with
  | some value => .ok value
  | none => .error ⟨key ++ " must be a valid u64"⟩

def Environment.getI64 (env : Environment) (key default : String) : Except Panic Int :=
  match Decimal.signed? 64 ((env.var key).getD default) with
  | some value => .ok value
  | none => .error ⟨key ++ " must be a valid usize"⟩

/-! ### The content registry -/

/-- `strip_prefix` and `strip_suffix` of a text. -/
def stripFront (front text : String) : Option String :=
  (text.toList.dropPrefix? front.toList).map String.ofList

def stripBack (back text : String) : Option String :=
  (text.toList.dropSuffix? back.toList).map String.ofList

/-- `unwrap` -/
def unwrap {α : Type} : Option α → Except Panic α
  | some value => .ok value
  | none => .error ⟨"called `Option::unwrap()` on a `None` value"⟩

/-- A name that starts with `CONTENT_API_` and ends with `_URL`. -/
def isContentApi (key : String) : Bool :=
  "CONTENT_API_".toList.isPrefixOf key.toList && "_URL".toList.isSuffixOf key.toList

/-- The part of the name of a content API that names its content type. -/
def contentTypeOf (toLowercase : String → String) (key : String) : Except Panic String := do
  let stripped ← unwrap (stripFront "CONTENT_API_" key)
  let middle ← unwrap (stripBack "_URL" stripped)
  return toLowercase middle

/-- The loop over `std::env::vars()`, which panics on a variable that is no Unicode; the text
of the variable is left out behind the message. -/
def contentApisOf (toLowercase : String → String) :
    Environment → (String → Option String) → Except Panic (String → Option String)
  | [], contentApis => .ok contentApis
  | (.unicode key, .unicode value) :: rest, contentApis =>
      if isContentApi key then do
        let contentType ← contentTypeOf toLowercase key
        contentApisOf toLowercase rest (Function.update contentApis contentType (some value))
      else contentApisOf toLowercase rest contentApis
  | _ :: _, _ => .error ⟨"called `Result::unwrap()` on an `Err` value"⟩

/-! ### The settings -/

/-- All settings of the process. -/
structure FullConfig extends Config where
  readDatabaseUrl : String
  databaseUrl : String
  redisUrl : String
  dbMaxConnections : Fin (2 ^ 32)
  dbMinConnections : Fin (2 ^ 32)
  dbAcquireTimeoutSecs : Fin (2 ^ 64)
  redisPoolSize : Fin (2 ^ 32)
  httpPort : Fin (2 ^ 16)
  logLevel : String
  shutdownTimeoutSecs : Fin (2 ^ 64)
  profileApiUrl : String
  contentApis : String → Option String
  rateLimitWritePerMinute : Fin (2 ^ 64)
  rateLimitReadPerMinute : Fin (2 ^ 64)
  cbFailureThreshold : Fin (2 ^ 64)
  cbRecoveryTimeoutSecs : Fin (2 ^ 64)
  cbSuccessThreshold : Fin (2 ^ 64)
  sseHeartbeatIntervalSecs : Fin (2 ^ 64)
  leaderboardRefreshIntervalSecs : Fin (2 ^ 64)

/-- `as u32` -/
def asU32 (n : Fin (2 ^ 64)) : Fin (2 ^ 32) := Fin.ofNat _ n.val

def Environment.httpPort (env : Environment) : Except Panic (Fin (2 ^ 16)) :=
  match Decimal.unsigned? 16 ((env.var "HTTP_PORT").getD "8080") with
  | some port => .ok port
  | none => .error ⟨"HTTP_PORT must be u16"⟩

/-- `Config::from_env` -/
def Config.fromEnv (toLowercase : String → String) (env : Environment) :
    Except Panic FullConfig := do
  let readDatabaseUrl ← env.expect "READ_DATABASE_URL"
  let databaseUrl ← env.expect "DATABASE_URL"
  let redisUrl ← env.expect "REDIS_URL"
  let dbMaxConnections ← env.getU64 "DB_MAX_CONNECTIONS" "20"
  let dbMinConnections ← env.getU64 "DB_MIN_CONNECTIONS" "5"
  let dbAcquireTimeoutSecs ← env.getU64 "DB_ACQUIRE_TIMEOUT_SECS" "5"
  let redisPoolSize ← env.getU64 "REDIS_POOL_SIZE" "10"
  let httpPort ← env.httpPort
  let shutdownTimeoutSecs ← env.getU64 "SHUTDOWN_TIMEOUT_SECS" "30"
  let profileApiUrl ← env.expect "PROFILE_API_URL"
  let contentApis ← contentApisOf toLowercase env fun _ => none
  let rateLimitWritePerMinute ← env.getU64 "RATE_LIMIT_WRITE_PER_MINUTE" "30"
  let rateLimitReadPerMinute ← env.getU64 "RATE_LIMIT_READ_PER_MINUTE" "1000"
  let cacheTtlLikeCountsSecs ← env.getI64 "CACHE_TTL_LIKE_COUNTS_SECS" "300"
  let cacheTtlContentValidationSecs ← env.getI64 "CACHE_TTL_CONTENT_VALIDATION_SECS" "3600"
  let cbFailureThreshold ← env.getU64 "CIRCUIT_BREAKER_FAILURE_THRESHOLD" "5"
  let cbRecoveryTimeoutSecs ← env.getU64 "CIRCUIT_BREAKER_RECOVERY_TIMEOUT_SECS" "30"
  let cbSuccessThreshold ← env.getU64 "CIRCUIT_BREAKER_SUCCESS_THRESHOLD" "3"
  let sseHeartbeatIntervalSecs ← env.getU64 "SSE_HEARTBEAT_INTERVAL_SECS" "15"
  let leaderboardRefreshIntervalSecs ← env.getU64 "LEADERBOARD_REFRESH_INTERVAL_SECS" "60"
  return {
    cacheTtlLikeCountsSecs := cacheTtlLikeCountsSecs
    cacheTtlContentValidationSecs := cacheTtlContentValidationSecs
    readDatabaseUrl := readDatabaseUrl
    databaseUrl := databaseUrl
    redisUrl := redisUrl
    dbMaxConnections := asU32 dbMaxConnections
    dbMinConnections := asU32 dbMinConnections
    dbAcquireTimeoutSecs := dbAcquireTimeoutSecs
    redisPoolSize := asU32 redisPoolSize
    httpPort := httpPort
    logLevel := (env.var "LOG_LEVEL").getD "info"
    shutdownTimeoutSecs := shutdownTimeoutSecs
    profileApiUrl := profileApiUrl
    contentApis := contentApis
    rateLimitWritePerMinute := rateLimitWritePerMinute
    rateLimitReadPerMinute := rateLimitReadPerMinute
    cbFailureThreshold := cbFailureThreshold
    cbRecoveryTimeoutSecs := cbRecoveryTimeoutSecs
    cbSuccessThreshold := cbSuccessThreshold
    sseHeartbeatIntervalSecs := sseHeartbeatIntervalSecs
    leaderboardRefreshIntervalSecs := leaderboardRefreshIntervalSecs }

namespace RedisLikeRepository

/-- `RedisLikeRepository::new` reads the environment again. -/
def new (toLowercase : String → String) (env : Environment) : Except Panic Config :=
  (Config.fromEnv toLowercase env).map FullConfig.toConfig

end RedisLikeRepository

/-! ### Environments in which the settings can be read -/

/-- The numbers that are read, with their defaults. -/
def u64Settings : List (String × String) :=
  [("DB_MAX_CONNECTIONS", "20"), ("DB_MIN_CONNECTIONS", "5"), ("DB_ACQUIRE_TIMEOUT_SECS", "5"),
   ("REDIS_POOL_SIZE", "10"), ("SHUTDOWN_TIMEOUT_SECS", "30"),
   ("RATE_LIMIT_WRITE_PER_MINUTE", "30"), ("RATE_LIMIT_READ_PER_MINUTE", "1000"),
   ("CIRCUIT_BREAKER_FAILURE_THRESHOLD", "5"), ("CIRCUIT_BREAKER_RECOVERY_TIMEOUT_SECS", "30"),
   ("CIRCUIT_BREAKER_SUCCESS_THRESHOLD", "3"), ("SSE_HEARTBEAT_INTERVAL_SECS", "15"),
   ("LEADERBOARD_REFRESH_INTERVAL_SECS", "60")]

def i64Settings : List (String × String) :=
  [("CACHE_TTL_LIKE_COUNTS_SECS", "300"), ("CACHE_TTL_CONTENT_VALIDATION_SECS", "3600")]

/-- The variables without a default. -/
def requiredSettings : List String :=
  ["READ_DATABASE_URL", "DATABASE_URL", "REDIS_URL", "PROFILE_API_URL"]

/-- The settings beside the content registry are there and can be read. -/
structure Environment.WellFormed (env : Environment) : Prop where
  present : ∀ key ∈ requiredSettings, (env.var key).isSome = true
  unsigned : ∀ setting ∈ u64Settings,
    (Decimal.unsigned? 64 ((env.var setting.1).getD setting.2)).isSome = true
  port : (Decimal.unsigned? 16 ((env.var "HTTP_PORT").getD "8080")).isSome = true
  signed : ∀ setting ∈ i64Settings,
    (Decimal.signed? 64 ((env.var setting.1).getD setting.2)).isSome = true

namespace Environment.WellFormed

variable {env : Environment}

/-- Every default can be read. -/
theorem of_defaults (present : ∀ key ∈ requiredSettings, (env.var key).isSome = true)
    (unset : ∀ key ∈ "HTTP_PORT" :: (u64Settings ++ i64Settings).map Prod.fst,
      env.var key = none) : env.WellFormed where
  present := present
  unsigned := by
    intro setting member
    rw [unset _ (by simp [List.mem_map_of_mem member]), Option.getD_none]
    revert setting
    decide
  port := by
    rw [unset _ (by simp)]
    decide
  signed := by
    intro setting member
    rw [unset _ (by simp [List.mem_map_of_mem member]), Option.getD_none]
    revert setting
    decide

theorem expect (wellFormed : env.WellFormed) {key : String} (required : key ∈ requiredSettings) :
    ∃ value, env.expect key = .ok value := by
  obtain ⟨value, there⟩ := Option.isSome_iff_exists.mp (wellFormed.present key required)
  exact ⟨value, by rw [Environment.expect, there]⟩

theorem getU64 (wellFormed : env.WellFormed) {key default : String}
    (setting : (key, default) ∈ u64Settings) : ∃ value, env.getU64 key default = .ok value := by
  obtain ⟨value, read⟩ := Option.isSome_iff_exists.mp (wellFormed.unsigned _ setting)
  exact ⟨value, by rw [Environment.getU64, read]⟩

theorem getI64 (wellFormed : env.WellFormed) {key default : String}
    (setting : (key, default) ∈ i64Settings) : ∃ value, env.getI64 key default = .ok value := by
  obtain ⟨value, read⟩ := Option.isSome_iff_exists.mp (wellFormed.signed _ setting)
  exact ⟨value, by rw [Environment.getI64, read]⟩

theorem httpPort (wellFormed : env.WellFormed) : ∃ value, env.httpPort = .ok value := by
  obtain ⟨value, read⟩ := Option.isSome_iff_exists.mp wellFormed.port
  exact ⟨value, by rw [Environment.httpPort, read]⟩

/-- Only the registry decides. -/
theorem fromEnv (wellFormed : env.WellFormed) (toLowercase : String → String) :
    (∀ contentApis, contentApisOf toLowercase env (fun _ => none) = .ok contentApis →
      ∃ config, Config.fromEnv toLowercase env = .ok config ∧
        config.contentApis = contentApis) ∧
    ∀ panic, contentApisOf toLowercase env (fun _ => none) = .error panic →
      Config.fromEnv toLowercase env = .error panic := by
  have text : ∀ key ∈ requiredSettings, ∃ value, env.expect key = .ok value :=
    fun key member => wellFormed.expect member
  have number : ∀ setting ∈ u64Settings, ∃ value, env.getU64 setting.1 setting.2 = .ok value :=
    fun setting member => wellFormed.getU64 member
  have time : ∀ setting ∈ i64Settings, ∃ value, env.getI64 setting.1 setting.2 = .ok value :=
    fun setting member => wellFormed.getI64 member
  simp only [requiredSettings, u64Settings, i64Settings, List.forall_mem_cons] at text number time
  obtain ⟨⟨_, readDatabase⟩, ⟨_, database⟩, ⟨_, redis⟩, ⟨_, profile⟩, _⟩ := text
  obtain ⟨⟨_, maxConnections⟩, ⟨_, minConnections⟩, ⟨_, acquireTimeout⟩, ⟨_, poolSize⟩,
    ⟨_, shutdownTimeout⟩, ⟨_, writes⟩, ⟨_, reads⟩, ⟨_, failures⟩, ⟨_, recovery⟩,
    ⟨_, successes⟩, ⟨_, heartbeat⟩, ⟨_, refresh⟩, _⟩ := number
  obtain ⟨⟨_, counts⟩, ⟨_, validations⟩, _⟩ := time
  obtain ⟨_, port⟩ := wellFormed.httpPort
  constructor
  · intro contentApis registered
    simp only [Config.fromEnv, readDatabase, database, redis, profile, maxConnections,
      minConnections, acquireTimeout, poolSize, shutdownTimeout, writes, reads, failures,
      recovery, successes, heartbeat, refresh, counts, validations, port, registered,
      bind, Except.bind]
    exact ⟨_, rfl, rfl⟩
  · intro panic registered
    simp only [Config.fromEnv, readDatabase, database, redis, profile, maxConnections,
      minConnections, acquireTimeout, poolSize, shutdownTimeout, port, registered, bind,
      Except.bind]

end Environment.WellFormed

end SocialApi
