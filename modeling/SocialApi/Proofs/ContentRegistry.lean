/-
Module: SocialApi.Proofs.ContentRegistry
Purpose: When the content registry can be read from the environment, and what it holds.
Trusted boundary: none
Main exports:
  contentApiName, isContentApi_iff, contentTypeOf_name, Registers, contentApisOf_registers,
  registry_safe_iff
-/
import SocialApi.Infrastructure.Config

namespace SocialApi

/-! ### The names of content APIs -/

/-- The variable for a content type. -/
def contentApiName (contentType : String) : String := "CONTENT_API_" ++ contentType ++ "_URL"

/-- The name in which start and end overlap. -/
def overlappingName : String := "CONTENT_API_URL"

theorem contentApiName_toList (s : String) :
    (contentApiName s).toList = "CONTENT_API_".toList ++ (s.toList ++ "_URL".toList) := by
  rw [contentApiName, String.toList_append, String.toList_append, List.append_assoc]

theorem contentApiName_ne_overlappingName (s : String) : contentApiName s ≠ overlappingName := by
  intro same
  have sizes := congrArg (fun text => text.toList.length) same
  simp only [contentApiName_toList, List.length_append] at sizes
  have overlapping : overlappingName.toList.length = 15 := by decide
  have front : "CONTENT_API_".toList.length = 12 := by decide
  have back : "_URL".toList.length = 4 := by decide
  omega

theorem contentApiName_inj {s other : String} (same : contentApiName s = contentApiName other) :
    s = other := by
  have chars := congrArg String.toList same
  rw [contentApiName_toList, contentApiName_toList] at chars
  exact String.toList_inj.mp (List.append_cancel_right (List.append_cancel_left chars))

theorem stripFront_append (front rest : String) : stripFront front (front ++ rest) = some rest := by
  have stripped : (front ++ rest).toList.dropPrefix? front.toList = some rest.toList :=
    List.dropPrefix?_eq_some_iff.mpr ⟨_, String.toList_append, beq_self_eq_true _⟩
  rw [stripFront, stripped, Option.map_some, String.ofList_toList]

theorem stripBack_append (rest back : String) : stripBack back (rest ++ back) = some rest := by
  have stripped : (rest ++ back).toList.dropSuffix? back.toList = some rest.toList :=
    List.dropSuffix?_eq_some_iff.mpr ⟨_, String.toList_append, beq_self_eq_true _⟩
  rw [stripBack, stripped, Option.map_some, String.ofList_toList]

/-- A name that passes both tests has a middle, or its start and its end overlap. -/
theorem isContentApi_iff {key : String} :
    isContentApi key = true ↔ (∃ s, key = contentApiName s) ∨ key = overlappingName := by
  rw [isContentApi, Bool.and_eq_true, List.isPrefixOf_iff_prefix, List.isSuffixOf_iff_suffix]
  constructor
  · rintro ⟨⟨rest, starts⟩, ends⟩
    rw [← starts] at ends
    rcases List.suffix_or_suffix_of_suffix ends (List.suffix_append _ rest) with
      ⟨middle, whole⟩ | short
    · left
      refine ⟨String.ofList middle, ?_⟩
      rw [← String.toList_inj, contentApiName_toList, @String.toList_ofList middle, whole, starts]
    · -- what follows the start is an end of the end
      have cases : ∀ tail ∈ "_URL".toList.tails,
          "_URL".toList <:+ "CONTENT_API_".toList ++ tail →
            tail = "_URL".toList ∨ tail = "URL".toList := by decide
      rcases cases rest ((List.mem_tails _ _).mpr short) ends with rfl | rfl
      · exact .inl ⟨"", String.toList_inj.mp starts.symm⟩
      · exact .inr (String.toList_inj.mp starts.symm)
  · rintro (⟨s, rfl⟩ | rfl)
    · rw [contentApiName_toList]
      exact ⟨List.prefix_append _ _, _, List.append_assoc _ _ _⟩
    · decide

/-- A name with a middle is stripped to it. -/
theorem contentTypeOf_name (toLowercase : String → String) (s : String) :
    contentTypeOf toLowercase (contentApiName s) = .ok (toLowercase s) := by
  have front : stripFront "CONTENT_API_" (contentApiName s) = some (s ++ "_URL") := by
    rw [contentApiName, String.append_assoc, stripFront_append]
  simp only [contentTypeOf, front, stripBack_append, unwrap, bind, Except.bind]
  rfl

/-- Where start and end overlap, nothing can be stripped the second time. -/
theorem contentTypeOf_overlappingName (toLowercase : String → String) :
    contentTypeOf toLowercase overlappingName =
      .error ⟨"called `Option::unwrap()` on a `None` value"⟩ := by
  have front : stripFront "CONTENT_API_" overlappingName = some "URL" := by decide
  have back : stripBack "_URL" "URL" = none := by decide
  simp only [contentTypeOf, front, back, unwrap, bind, Except.bind]

/-! ### The loop -/

section Loop

variable {toLowercase : String → String} {env rest : Environment}
  {start contentApis : String → Option String} {key value contentType url : String}

/-- A variable that the loop can read. -/
def Readable (entry : OsString × OsString) : Prop :=
  ∃ key value, entry = (.unicode key, .unicode value) ∧ key ≠ overlappingName

/-- Some variable gives the content type the URL. -/
def Names (toLowercase : String → String) (env : Environment) (contentType url : String) : Prop :=
  ∃ s, (.unicode (contentApiName s), .unicode url) ∈ env ∧ contentType = toLowercase s

/-- What a variable with a content type in its name does. -/
theorem contentApisOf_name (s : String) :
    contentApisOf toLowercase ((.unicode (contentApiName s), .unicode value) :: rest) start =
      contentApisOf toLowercase rest (Function.update start (toLowercase s) (some value)) := by
  have tested : isContentApi (contentApiName s) = true := isContentApi_iff.mpr (.inl ⟨s, rfl⟩)
  rw [contentApisOf, if_pos tested, contentTypeOf_name]
  rfl

theorem contentApisOf_overlappingName :
    contentApisOf toLowercase ((.unicode overlappingName, .unicode value) :: rest) start =
      .error ⟨"called `Option::unwrap()` on a `None` value"⟩ := by
  have tested : isContentApi overlappingName = true := isContentApi_iff.mpr (.inr rfl)
  rw [contentApisOf, if_pos tested, contentTypeOf_overlappingName]
  rfl

theorem contentApisOf_skip (other : ¬ isContentApi key = true) :
    contentApisOf toLowercase ((.unicode key, .unicode value) :: rest) start =
      contentApisOf toLowercase rest start := by
  rw [contentApisOf, if_neg other]

/-- The loop comes to its end if and only if it can read every variable. -/
theorem contentApisOf_ok_iff :
    (∃ contentApis, contentApisOf toLowercase env start = .ok contentApis) ↔
      ∀ entry ∈ env, Readable entry := by
  induction env generalizing start with
  | nil => exact ⟨fun _ => by simp, fun _ => ⟨start, rfl⟩⟩
  | cons entry rest inductionHypothesis =>
      rw [List.forall_mem_cons]
      have unread : ∀ {panic : Panic}, contentApisOf toLowercase (entry :: rest) start =
          .error panic → ¬ Readable entry → ((∃ contentApis,
            contentApisOf toLowercase (entry :: rest) start = .ok contentApis) ↔
              Readable entry ∧ ∀ entry ∈ rest, Readable entry) := by
        intro panic stopped unreadable
        rw [stopped]
        exact ⟨fun ⟨_, absurd⟩ => (by cases absurd), fun ⟨readable, _⟩ =>
          absurd readable unreadable⟩
      match entry with
      | (.unicode key, .unicode value) =>
          by_cases tested : isContentApi key = true
          · rcases isContentApi_iff.mp tested with ⟨s, rfl⟩ | rfl
            · rw [contentApisOf_name, inductionHypothesis]
              exact (and_iff_right ⟨_, _, rfl, contentApiName_ne_overlappingName s⟩).symm
            · apply unread contentApisOf_overlappingName
              rintro ⟨_, _, ⟨rfl, rfl⟩, other⟩
              exact other rfl
          · rw [contentApisOf_skip tested, inductionHypothesis]
            refine (and_iff_right ⟨_, _, rfl, ?_⟩).symm
            rintro rfl
            exact tested (isContentApi_iff.mpr (.inr rfl))
      | (.unicode key, .other bytes) =>
          apply unread rfl
          rintro ⟨_, _, absurd, _⟩
          cases absurd
      | (.other bytes, value) =>
          apply unread rfl
          rintro ⟨_, _, absurd, _⟩
          cases absurd

theorem names_cons_name (s : String) :
    Names toLowercase ((.unicode (contentApiName s), .unicode value) :: rest) contentType url ↔
      contentType = toLowercase s ∧ url = value ∨ Names toLowercase rest contentType url := by
  constructor
  · rintro ⟨middle, member, lower⟩
    rcases List.mem_cons.mp member with first | later
    · obtain ⟨names, values⟩ := Prod.mk.inj first
      obtain rfl := contentApiName_inj (OsString.unicode.inj names)
      exact .inl ⟨lower, OsString.unicode.inj values⟩
    · exact .inr ⟨middle, later, lower⟩
  · rintro (⟨lower, rfl⟩ | ⟨middle, later, lower⟩)
    · exact ⟨s, List.mem_cons_self, lower⟩
    · exact ⟨middle, List.mem_cons_of_mem _ later, lower⟩

theorem names_cons_skip (other : ¬ isContentApi key = true) :
    Names toLowercase ((.unicode key, .unicode value) :: rest) contentType url ↔
      Names toLowercase rest contentType url := by
  constructor
  · rintro ⟨middle, member, lower⟩
    rcases List.mem_cons.mp member with first | later
    · obtain ⟨names, _⟩ := Prod.mk.inj first
      obtain rfl := OsString.unicode.inj names
      exact absurd (isContentApi_iff.mpr (.inl ⟨middle, rfl⟩)) other
    · exact ⟨middle, later, lower⟩
  · rintro ⟨middle, later, lower⟩
    exact ⟨middle, List.mem_cons_of_mem _ later, lower⟩

/-- The registry holds what it held at the start and what the variables name. -/
theorem contentApisOf_registers (read : contentApisOf toLowercase env start = .ok contentApis)
    (contentType : String) :
    (∀ url, contentApis contentType = some url →
      start contentType = some url ∨ Names toLowercase env contentType url) ∧
    ((start contentType).isSome = true ∨ (∃ url, Names toLowercase env contentType url) →
      (contentApis contentType).isSome = true) := by
  induction env generalizing start with
  | nil =>
      obtain rfl := Except.ok.inj read
      refine ⟨fun url found => .inl found, ?_⟩
      rintro (held | ⟨url, s, absurd, _⟩)
      · exact held
      · cases absurd
  | cons entry rest inductionHypothesis =>
      have readable := contentApisOf_ok_iff.mp ⟨contentApis, read⟩ entry List.mem_cons_self
      obtain ⟨key, value, rfl, plain⟩ := readable
      by_cases tested : isContentApi key = true
      · rcases isContentApi_iff.mp tested with ⟨s, rfl⟩ | rfl
        · rw [contentApisOf_name] at read
          obtain ⟨only, all⟩ := inductionHypothesis read
          simp only [names_cons_name]
          by_cases own : contentType = toLowercase s
          · rw [own, Function.update_self] at only all
            rw [own]
            refine ⟨fun url found => ?_, fun _ => all (.inl rfl)⟩
            rcases only url found with held | later
            · exact .inr (.inl ⟨rfl, (Option.some.inj held).symm⟩)
            · exact .inr (.inr later)
          · rw [Function.update_of_ne own] at only all
            simp only [own, false_and, false_or]
            exact ⟨only, all⟩
        · exact absurd rfl plain
      · rw [contentApisOf_skip tested] at read
        simp only [names_cons_skip tested]
        exact inductionHypothesis read

end Loop

/-! ### The registry -/

/-- The registry has an entry for exactly the content types that a variable names, with the
value of such a variable. -/
structure Registers (toLowercase : String → String) (env : Environment)
    (contentApis : String → Option String) : Prop where
  entry : ∀ contentType, (contentApis contentType).isSome = true ↔
    ∃ url, Names toLowercase env contentType url
  value : ∀ contentType url, contentApis contentType = some url →
    Names toLowercase env contentType url

theorem registers_of_ok {toLowercase : String → String} {env : Environment}
    {contentApis : String → Option String}
    (read : contentApisOf toLowercase env (fun _ => none) = .ok contentApis) :
    Registers toLowercase env contentApis := by
  have value : ∀ contentType url, contentApis contentType = some url →
      Names toLowercase env contentType url := by
    intro contentType url found
    rcases (contentApisOf_registers read contentType).1 url found with absurd | named
    · cases absurd
    · exact named
  refine ⟨fun contentType => ⟨fun found => ?_, fun named => ?_⟩, value⟩
  · obtain ⟨url, there⟩ := Option.isSome_iff_exists.mp found
    exact ⟨url, value contentType url there⟩
  · exact (contentApisOf_registers read contentType).2 (.inr named)

/-- The process starts, and the repository is made, with the registry that the variables
describe. -/
def ReadsRegistry (toLowercase : String → String) (env : Environment) : Prop :=
  ∃ config, Config.fromEnv toLowercase env = .ok config ∧
    RedisLikeRepository.new toLowercase env = .ok config.toConfig ∧
    Registers toLowercase env config.contentApis

/-- Where the other settings can be read, the content registry is read as the variables
describe it if and only if all variables are Unicode and none has the name in which start and
end of a content API overlap. -/
theorem registry_safe_iff (toLowercase : String → String) {env : Environment}
    (wellFormed : env.WellFormed) :
    ReadsRegistry toLowercase env ↔
      ∀ entry ∈ env, ∃ key value,
        entry = (.unicode key, .unicode value) ∧ key ≠ "CONTENT_API_URL" := by
  obtain ⟨goes_on, stops⟩ := wellFormed.fromEnv toLowercase
  constructor
  · rintro ⟨config, started, _⟩
    cases registered : contentApisOf toLowercase env (fun _ => none) with
    | ok contentApis => exact contentApisOf_ok_iff.mp ⟨contentApis, registered⟩
    | error panic =>
        rw [stops panic registered] at started
        cases started
  · intro readable
    have ends : ∃ contentApis, contentApisOf toLowercase env (fun _ => none) = .ok contentApis :=
      contentApisOf_ok_iff.mpr readable
    obtain ⟨contentApis, registered⟩ := ends
    obtain ⟨config, started, rfl⟩ := goes_on contentApis registered
    refine ⟨config, started, ?_, registers_of_ok registered⟩
    rw [RedisLikeRepository.new, started]
    rfl

/-- The required settings and one more variable. -/
def environmentWith (name value : String) : Environment :=
  [(.unicode "READ_DATABASE_URL", .unicode "postgres://read"),
   (.unicode "DATABASE_URL", .unicode "postgres://write"),
   (.unicode "REDIS_URL", .unicode "redis://cache"),
   (.unicode "PROFILE_API_URL", .unicode "http://profile"), (.unicode name, .unicode value)]

theorem wellFormed_posts : (environmentWith "CONTENT_API_POST_URL" "http://posts").WellFormed :=
  .of_defaults (by decide) (by decide)

/-- With a variable for posts the process starts, with a registry of posts. -/
theorem registry_safe_posts :
    ReadsRegistry String.toLower (environmentWith "CONTENT_API_POST_URL" "http://posts") :=
  (registry_safe_iff String.toLower wellFormed_posts).mpr (by
    intro entry member
    simp only [environmentWith, List.mem_cons, List.not_mem_nil, or_false] at member
    rcases member with rfl | rfl | rfl | rfl | rfl <;> exact ⟨_, _, rfl, by decide⟩)

theorem wellFormed_overlap : (environmentWith "CONTENT_API_URL" "http://content").WellFormed :=
  .of_defaults (by decide) (by decide)

/-- A variable named `CONTENT_API_URL` keeps the process from starting. -/
theorem registry_panics :
    (environmentWith "CONTENT_API_URL" "http://content").WellFormed ∧
      ∀ toLowercase,
        Config.fromEnv toLowercase (environmentWith "CONTENT_API_URL" "http://content") =
          .error ⟨"called `Option::unwrap()` on a `None` value"⟩ ∧
        ¬ ReadsRegistry toLowercase (environmentWith "CONTENT_API_URL" "http://content") := by
  refine ⟨wellFormed_overlap, fun toLowercase => ?_⟩
  have registry : contentApisOf toLowercase
      (environmentWith "CONTENT_API_URL" "http://content") (fun _ => none) =
        .error ⟨"called `Option::unwrap()` on a `None` value"⟩ := by
    unfold environmentWith
    rw [contentApisOf_skip (by decide), contentApisOf_skip (by decide),
      contentApisOf_skip (by decide), contentApisOf_skip (by decide)]
    exact contentApisOf_overlappingName
  have panics := (wellFormed_overlap.fromEnv toLowercase).2 _ registry
  refine ⟨panics, ?_⟩
  rintro ⟨config, started, _⟩
  rw [panics] at started
  cases started

end SocialApi
