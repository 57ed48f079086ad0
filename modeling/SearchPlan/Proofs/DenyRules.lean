import SearchPlan.Pattern.Reader
import SearchPlan.Permission
import SearchPlan.Run.Move

/-! What a list of deny rules decides. The tests that are kept by repository come to what the list
says, read as a whole, so neither the order of its rules nor their repetition matters. -/

namespace SearchPlan

/-- Only what passes both of two checkers gets past one after the other. -/
theorem Flow.filter_filter (a b : Checker) (f : Flow) :
    (f.filter b).filter a = f.filter fun m => a m && b m := by
  cases f with
  | quiet => rfl
  | resumed => rfl
  | handed batch waits =>
    have hboth := List.filter_filter (p := a) (q := b) (l := batch)
    cases hb : batch.filter b with
    | nil =>
      rw [hb, List.filter_nil] at hboth
      simp only [filter, hb, ← hboth]
    | cons m rest =>
      rw [hb] at hboth
      simp only [filter, hb, hboth]

/-- A sender above which two checkers stand waits for room as if they were one. -/
theorem Context.through_filter (a b : Checker) (c : Context) :
    (c.through (·.filter a)).through (·.filter b) = c.through (·.filter fun m => a m && b m) := by
  have hwaits (batch : Batch) : (!(batch.filter b).isEmpty &&
      (!((batch.filter b).filter a).isEmpty && c.waits ((batch.filter b).filter a))) =
        (!(batch.filter fun m => a m && b m).isEmpty &&
          c.waits (batch.filter fun m => a m && b m)) := by
    rw [← List.filter_filter]
    cases batch.filter b <;> rfl
  simp only [through, hwaits]

namespace DenyRules

variable {compile : String → Option PathTest} {rules rules' : DenyRules}
  {list list' before after : List (String × String)} {rule : String × String} {repo : String}
  {m : Match} {e : ConfigError}

/-- The rule is about the repository of the match, and its pattern matches the path. -/
def Denies (compile : String → Option PathTest) (rule : String × String) (m : Match) : Prop :=
  rule.1 = m.repo ∧ ∃ path test, m.path = some path ∧ compile rule.2 = some test ∧ test path = true

theorem lookup_cons_eq (other repo : String) (tests : List PathTest)
    (rest : List (String × List PathTest)) :
    ((other, tests) :: rest).lookup repo =
      if other = repo then some tests else rest.lookup repo := by
  by_cases h : other = repo
  · subst h
    rw [List.lookup_cons_self, if_pos rfl]
  · rw [List.lookup_cons, beq_false_of_ne (Ne.symm h), if_neg h]

theorem getD_lookup_insert (repo repo' : String) (test : PathTest)
    (byRepo : List (String × List PathTest)) :
    ((insert repo test byRepo).lookup repo').getD [] =
      (byRepo.lookup repo').getD [] ++ if repo = repo' then [test] else [] := by
  induction byRepo with
  | nil =>
    rw [insert, lookup_cons_eq]
    split <;> rfl
  | cons entry rest ih =>
    obtain ⟨other, tests⟩ := entry
    rw [insert]
    split
    case isTrue hsame =>
      rw [lookup_cons_eq, lookup_cons_eq, hsame]
      split <;> simp
    case isFalse hother =>
      rw [lookup_cons_eq, lookup_cons_eq]
      split
      case isTrue h =>
        subst h
        rw [if_neg (Ne.symm hother), List.append_nil]
      case isFalse => exact ih

theorem tests_deny (rules : DenyRules) (repo repo' : String) (test : PathTest) :
    (rules.deny repo test).tests repo' =
      rules.tests repo' ++ if repo = repo' then [test] else [] :=
  getD_lookup_insert repo repo' test rules.byRepo

/-- The tests for a repository are those of its rules, in the order of the list. -/
theorem tests_build (h : build compile rules list = .ok rules') (repo : String) :
    rules'.tests repo = rules.tests repo ++
      list.filterMap fun rule => if rule.1 = repo then compile rule.2 else none := by
  induction list generalizing rules with
  | nil =>
    cases h
    exact (List.append_nil _).symm
  | cons rule list ih =>
    simp only [build] at h
    cases hcompile : compile rule.2 with
    | none =>
      rw [hcompile] at h
      cases h
    | some test =>
      rw [hcompile] at h
      rw [ih h, tests_deny, List.append_assoc, List.filterMap_cons, hcompile]
      split <;> rfl

/-- The list has a pattern that does not compile, and this is the repository of the first one. -/
def Refused (compile : String → Option PathTest) (list : List (String × String)) (repo : String) :
    Prop :=
  ∃ before pattern after, list = before ++ (repo, pattern) :: after ∧
    (∀ rule ∈ before, (compile rule.2).isSome) ∧ compile pattern = none

theorem build_cons {test : PathTest} (h : compile rule.2 = some test) :
    build compile rules (rule :: list) = build compile (rules.deny rule.1 test) list := by
  simp only [build, h]

theorem build_eq_error_iff :
    build compile rules list = .error e ↔
      ∃ repo, Refused compile list repo ∧ e = .badPattern repo := by
  induction list generalizing rules with
  | nil => simp [build, Refused]
  | cons rule list ih =>
    cases h : compile rule.2 with
    | none =>
      have hbuild : build compile rules (rule :: list) = .error (.badPattern rule.1) := by
        simp only [build, h]
      rw [hbuild]
      constructor
      · rintro ⟨⟩
        exact ⟨rule.1, ⟨[], rule.2, list, rfl, nofun, h⟩, rfl⟩
      · rintro ⟨repo, ⟨before, pattern, after, heq, hbefore, -⟩, rfl⟩
        cases before with
        | nil =>
          cases heq
          rfl
        | cons first before =>
          cases heq
          have := hbefore rule List.mem_cons_self
          rw [h] at this
          cases this
    | some test =>
      rw [build_cons h, ih]
      refine exists_congr fun repo => and_congr_left fun _ => ?_
      constructor
      · rintro ⟨before, pattern, after, rfl, hbefore, hnone⟩
        refine ⟨rule :: before, pattern, after, rfl, ?_, hnone⟩
        exact List.forall_mem_cons.2 ⟨by rw [h]; rfl, hbefore⟩
      · rintro ⟨before, pattern, after, heq, hbefore, hnone⟩
        cases before with
        | nil =>
          cases heq
          rw [h] at hnone
          cases hnone
        | cons first before =>
          cases heq
          exact ⟨before, pattern, after, rfl, (List.forall_mem_cons.1 hbefore).2, hnone⟩

theorem build_eq_ok (rules : DenyRules) (h : ∀ rule ∈ list, (compile rule.2).isSome) :
    ∃ rules', build compile rules list = .ok rules' := by
  cases hbuild : build compile rules list with
  | ok rules' => exact ⟨rules', rfl⟩
  | error e =>
    obtain ⟨repo, ⟨before, pattern, after, rfl, -, hnone⟩, -⟩ := build_eq_error_iff.1 hbuild
    have hsome := h (repo, pattern) (List.mem_append_right _ List.mem_cons_self)
    rw [hnone] at hsome
    cases hsome

theorem isSome_of_build (h : build compile rules list = .ok rules') (hrule : rule ∈ list) :
    (compile rule.2).isSome := by
  induction list generalizing rules with
  | nil => cases hrule
  | cons first list ih =>
    cases hfirst : compile first.2 with
    | none =>
      simp only [build, hfirst] at h
      cases h
    | some test =>
      rw [build_cons hfirst] at h
      rcases List.mem_cons.1 hrule with rfl | hrule
      · rw [hfirst]
        rfl
      · exact ih h hrule

/-- A list is refused if and only if a pattern in it does not compile. -/
theorem exists_refused_iff :
    (∃ repo, Refused compile list repo) ↔ ∃ rule ∈ list, compile rule.2 = none := by
  constructor
  · rintro ⟨repo, before, pattern, after, rfl, -, hnone⟩
    exact ⟨(repo, pattern), List.mem_append_right _ List.mem_cons_self, hnone⟩
  · rintro ⟨rule, hrule, hnone⟩
    cases hbuild : build compile {} list with
    | error e =>
      obtain ⟨repo, hrefused, -⟩ := build_eq_error_iff.1 hbuild
      exact ⟨repo, hrefused⟩
    | ok rules =>
      have hsome := isSome_of_build hbuild hrule
      rw [hnone] at hsome
      cases hsome

theorem mem_tests_of_build (h : build compile {} list = .ok rules) {test : PathTest} :
    test ∈ rules.tests repo ↔ ∃ rule ∈ list, rule.1 = repo ∧ compile rule.2 = some test := by
  have hnone : ({} : DenyRules).tests repo = [] := rfl
  rw [tests_build h, hnone, List.nil_append, List.mem_filterMap]
  refine exists_congr fun rule => and_congr_right fun _ => ?_
  split
  case isTrue hrepo => simp only [hrepo, true_and]
  case isFalse hrepo => simp only [hrepo, false_and, reduceCtorEq]

theorem allows_iff (h : build compile {} list = .ok rules) :
    rules.allows m = true ↔ ∀ rule ∈ list, ¬Denies compile rule m := by
  rw [allows]
  cases hpath : m.path with
  | none =>
    refine iff_of_true rfl ?_
    rintro rule - ⟨-, path, test, hsome, -⟩
    rw [hpath] at hsome
    cases hsome
  | some path =>
    dsimp only
    rw [Bool.not_eq_true', List.any_eq_false]
    constructor
    · rintro htests rule hrule ⟨hrepo, path', test, hsome, htest, hmatches⟩
      rw [hpath] at hsome
      cases hsome
      exact htests test ((mem_tests_of_build h).2 ⟨rule, hrule, hrepo, htest⟩) hmatches
    · intro hrules test htest hmatches
      obtain ⟨rule, hrule, hrepo, htest⟩ := (mem_tests_of_build h).1 htest
      exact hrules rule hrule ⟨hrepo, path, test, hpath, htest, hmatches⟩

theorem restricts_iff (h : build compile {} list = .ok rules) :
    rules.restricts repo = true ↔ ∃ rule ∈ list, rule.1 = repo := by
  rw [restricts, Bool.not_eq_true', List.isEmpty_eq_false_iff_exists_mem]
  constructor
  · rintro ⟨test, htest⟩
    obtain ⟨rule, hrule, hrepo, -⟩ := (mem_tests_of_build h).1 htest
    exact ⟨rule, hrule, hrepo⟩
  · rintro ⟨rule, hrule, hrepo⟩
    obtain ⟨test, htest⟩ := Option.isSome_iff_exists.1 (isSome_of_build h hrule)
    exact ⟨test, (mem_tests_of_build h).2 ⟨rule, hrule, hrepo, htest⟩⟩

/-- Lists of the same rules decide the same, whatever their order and however often a rule is in
them. -/
theorem exists_build_of_same (h : build compile {} list = .ok rules)
    (hsame : ∀ rule, rule ∈ list' ↔ rule ∈ list) : ∃ rules', build compile {} list' = .ok rules' ∧
      rules'.allows = rules.allows ∧ rules'.restricts = rules.restricts := by
  have hcompile : ∀ rule ∈ list', (compile rule.2).isSome := fun rule hrule =>
    isSome_of_build h ((hsame rule).1 hrule)
  obtain ⟨rules', h'⟩ := build_eq_ok {} hcompile
  refine ⟨rules', h', funext fun m => ?_, funext fun repo => ?_⟩
  · rw [Bool.eq_iff_iff, allows_iff h, allows_iff h']
    simp only [hsame]
  · rw [Bool.eq_iff_iff, restricts_iff h, restricts_iff h']
    simp only [hsame]

/-- One more rule, at whatever place, denies what it denies besides what was denied before. -/
theorem exists_build_of_more (h : build compile {} (before ++ after) = .ok rules)
    (hrule : (compile rule.2).isSome) :
    ∃ rules', build compile {} (before ++ rule :: after) = .ok rules' ∧
      ∀ m, rules'.allows m = true ↔ ¬Denies compile rule m ∧ rules.allows m = true := by
  have hcompile : ∀ other ∈ before ++ after, (compile other.2).isSome := fun _ =>
    isSome_of_build h
  rw [List.forall_mem_append] at hcompile
  obtain ⟨rules', h'⟩ : ∃ rules', build compile {} (before ++ rule :: after) = .ok rules' := by
    apply build_eq_ok
    rw [List.forall_mem_append, List.forall_mem_cons]
    exact ⟨hcompile.1, hrule, hcompile.2⟩
  refine ⟨rules', h', fun m => ?_⟩
  rw [allows_iff h, allows_iff h', List.forall_mem_append, List.forall_mem_append,
    List.forall_mem_cons, and_left_comm]

/-- The rules of two lists, put together, deny what either denies. -/
theorem exists_build_append (h : build compile {} list = .ok rules)
    (h' : build compile {} list' = .ok rules') :
    ∃ both, build compile {} (list ++ list') = .ok both ∧
      both.allows = fun m => rules.allows m && rules'.allows m := by
  have hcompile : ∀ rule ∈ list ++ list', (compile rule.2).isSome :=
    List.forall_mem_append.2 ⟨fun _ => isSome_of_build h, fun _ => isSome_of_build h'⟩
  obtain ⟨both, hboth⟩ := build_eq_ok {} hcompile
  refine ⟨both, hboth, funext fun m => ?_⟩
  rw [Bool.eq_iff_iff, Bool.and_eq_true, allows_iff h, allows_iff h', allows_iff hboth,
    List.forall_mem_append]

/-- Deny rules are refused for the first pattern that does not compile. Otherwise they hide a match
if and only if one of them denies it. So their order and repetition do not matter, one more of them
hides no less and nothing in other repositories, and one check above another is the check of the
rules of both. -/
theorem build_reads_as_list (compile : String → Option PathTest) (list : List (String × String)) :
    (∀ e, build compile {} list = .error e ↔
      ∃ repo, Refused compile list repo ∧ e = .badPattern repo) ∧
    ((∃ e, build compile {} list = .error e) ↔ ∃ rule ∈ list, compile rule.2 = none) ∧
    ∀ rules, build compile {} list = .ok rules →
      (∀ m, rules.allows m = true ↔ ∀ rule ∈ list, ¬Denies compile rule m) ∧
      (∀ repo, rules.restricts repo = true ↔ ∃ rule ∈ list, rule.1 = repo) ∧
      (∀ list', (∀ rule, rule ∈ list' ↔ rule ∈ list) →
        ∃ rules', build compile {} list' = .ok rules' ∧
          rules'.allows = rules.allows ∧ rules'.restricts = rules.restricts) ∧
      (∀ before after rule, list = before ++ after → (compile rule.2).isSome →
        ∃ rules', build compile {} (before ++ rule :: after) = .ok rules' ∧
          (∀ m, rules'.allows m = true → rules.allows m = true) ∧
          ∀ m, m.repo ≠ rule.1 → rules'.allows m = rules.allows m) ∧
      ∀ list' rules', build compile {} list' = .ok rules' →
        ∃ both, build compile {} (list ++ list') = .ok both ∧
          (∀ f : Flow, (f.filter rules'.allows).filter rules.allows = f.filter both.allows) ∧
          ∀ c : Context, (c.through (·.filter rules.allows)).through (·.filter rules'.allows) =
            c.through (·.filter both.allows) := by
  refine ⟨fun e => build_eq_error_iff, ?_, fun rules h => ⟨fun m => allows_iff h,
    fun repo => restricts_iff h, fun list' => exists_build_of_same h, ?_, ?_⟩⟩
  · rw [← exists_refused_iff]
    simp only [build_eq_error_iff]
    exact ⟨fun ⟨_, repo, hrefused, _⟩ => ⟨repo, hrefused⟩,
      fun ⟨repo, hrefused⟩ => ⟨_, repo, hrefused, rfl⟩⟩
  · rintro before after rule rfl hrule
    obtain ⟨rules', h', hallows⟩ := exists_build_of_more h hrule
    refine ⟨rules', h', fun m hm => ((hallows m).1 hm).2, fun m hrepo => ?_⟩
    rw [Bool.eq_iff_iff, hallows, and_iff_right]
    rintro ⟨hsame, -⟩
    exact hrepo hsame.symm
  · intro list' rules' h'
    obtain ⟨both, hboth, hallows⟩ := exists_build_append h h'
    refine ⟨both, hboth, fun f => ?_, fun c => ?_⟩
    · rw [Flow.filter_filter, hallows]
    · rw [Context.through_filter, hallows]

end DenyRules

/-! The rules of one viewer above those of another, and a pattern that is not one. -/

namespace Classified

def rules : List (String × String) := [("a", "^secrets/"), ("b", "[.]pem$"), ("a", "x+")]

def others : List (String × String) := [("b", "^y")]

def found : Batch :=
  [.ofPath "a" "secrets/key", .ofPath "b" "secrets/key", .ofPath "b" "yes", .ofRepo "a"]

theorem one_file_left : ∃ first second both,
    DenyRules.build Pattern.compile? {} rules = .ok first ∧
    DenyRules.build Pattern.compile? {} others = .ok second ∧
    DenyRules.build Pattern.compile? {} (rules ++ others) = .ok both ∧
    ((Flow.handed found false).filter second.allows).filter first.allows =
      .handed [.ofPath "b" "secrets/key", .ofRepo "a"] false ∧
    first.restricts "a" = true ∧ first.restricts "c" = false ∧
    DenyRules.build Pattern.compile? {} (("c", "(") :: rules) = .error (.badPattern "c") := by
  have hleft : (DenyRules.build Pattern.compile? {} (rules ++ others)).toOption.map
      (fun both => found.filter both.allows) =
        some [.ofPath "b" "secrets/key", .ofRepo "a"] := by decide +kernel
  have hrules : ∀ rule ∈ rules, (Pattern.compile? rule.2).isSome := by decide +kernel
  have hothers : ∀ rule ∈ others, (Pattern.compile? rule.2).isSome := by decide +kernel
  have hbad : Pattern.compile? "(" = none := by decide +kernel
  obtain ⟨first, h⟩ := DenyRules.build_eq_ok {} hrules
  obtain ⟨second, h'⟩ := DenyRules.build_eq_ok {} hothers
  obtain ⟨-, -, hdecides⟩ := DenyRules.build_reads_as_list Pattern.compile? rules
  obtain ⟨-, hrestricts, -, -, happend⟩ := hdecides first h
  obtain ⟨both, hboth, hflow, -⟩ := happend others second h'
  obtain ⟨herror, -⟩ := DenyRules.build_reads_as_list Pattern.compile? (("c", "(") :: rules)
  rw [hboth] at hleft
  have hleft : found.filter both.allows = [.ofPath "b" "secrets/key", .ofRepo "a"] :=
    Option.some.inj hleft
  refine ⟨first, second, both, h, h', hboth, ?_, (hrestricts "a").2 (by decide), ?_,
    (herror _).2 ⟨"c", ⟨[], "(", rules, rfl, nofun, hbad⟩, rfl⟩⟩
  · rw [hflow, Flow.filter, hleft]
  · rw [Bool.eq_false_iff, Ne, hrestricts "c"]
    decide

end Classified

end SearchPlan
