-- SUMMARY: Naming a backend on the command line: every name but `--` can be given, and a registered one is the backend that solves.
import Mathlib.Data.List.Chain
import LinearDispatch.CommandLine.Run
import LinearDispatch.Proofs.Except
import LinearDispatch.Proofs.Selection.Policy

/-!
# Backends on the command line

What is attached to `--solver=` is the name as it stands, with one exception: a
`--` is removed, and the option is left without a name. As a separate argument
a `--` names nothing either, because it ends the options. So `--` is the one
name that no command line can give.
-/
namespace LinearDispatch.CommandLine

/-! ## Names that can be given -/

/-- What is attached to the long option is its value. -/
theorem classify_solver (s : String) :
    classify ("--solver=" ++ s) = .ok (.option true .solver (some s.toList)) := by
  have hlist : ("--solver=" ++ s).toList =
      '-' :: '-' :: 's' :: 'o' :: 'l' :: 'v' :: 'e' :: 'r' :: '=' :: s.toList := by
    rw [String.toList_append]
    rfl
  rw [classify, hlist]
  rfl

theorem parse_solver (s : String) :
    parse ["--solver=" ++ s] = .ok (.run { solver := .attached s }) := by
  have hne : "--solver=" ++ s ≠ "--" := by
    intro h
    have hlength := congrArg String.length h
    rw [String.length_append] at hlength
    have hoption : "--solver=".length = 9 := rfl
    have hdashes : "--".length = 2 := rfl
    omega
  rw [parse, tokens, if_neg hne, classify_solver]
  simp only [tokens, Except.map, take, readOption, Flag.takesValue, if_true, takeFlags,
    String.ofList_toList]

/-- An argument that starts with no dash is the value of the option before it. -/
theorem parse_solver_next {s : String} (hs : s.toList.head? ≠ some '-') :
    parse ["--solver", s] = .ok (.run { solver := .named s }) := by
  have hne : s ≠ "--" := by
    rintro rfl
    exact hs rfl
  have hplain : classify s = .ok (.plain s) := by
    rw [classify]
    cases hlist : s.toList with
    | nil => rfl
    | cons c cs =>
      have hc : c ≠ '-' := by
        rintro rfl
        exact hs (by rw [hlist]; rfl)
      simp [hc]
  have hoption : classify "--solver" = .ok (.option true .solver none) := rfl
  rw [parse, tokens, if_neg (by decide), hoption, tokens, if_neg hne, hplain]
  simp only [tokens, Except.map, take, readOption, Flag.takesValue, if_true, takeFlags]

theorem parse_listSolvers : parse ["--list-solvers"] = .ok (.run { listSolvers := true }) := by
  rfl

/-! ## The name that cannot be given -/

/-- Behind an option, an argument that is no option is not `--`. -/
def Follows : Token → Token → Prop
  | .option .., .plain s => s ≠ "--"
  | _,          _        => True

theorem exists_option_of_mem_candidates {cs : List Char} {p : List Char × Token}
    (h : p ∈ candidates cs) : ∃ long flag attached, p.2 = .option long flag attached := by
  rw [candidates.eq_def] at h
  split at h
  · obtain ⟨e, -, rfl⟩ := List.mem_map.1 h
    exact ⟨_, _, _, rfl⟩
  · obtain ⟨⟨spelling, flag⟩, -, he⟩ := List.mem_filterMap.1 h
    dsimp only at he
    split at he
    · cases he
      exact ⟨_, _, _, rfl⟩
    · split at he
      · cases he
        exact ⟨_, _, _, rfl⟩
      · cases he
  · cases h

/-- An argument that is no option stands for itself. -/
theorem eq_of_classify_plain {s s' : String} (h : classify s = .ok (.plain s')) : s' = s := by
  rw [classify] at h
  dsimp only at h
  split at h
  · split at h
    · cases h
    · cases h
    · split at h
      · next heq =>
        obtain ⟨_, _, _, hoption⟩ :=
          exists_option_of_mem_candidates (heq ▸ List.mem_singleton_self _)
        cases h
        cases hoption
      · split at h
        · cases h
          rfl
        · cases h
      · cases h
  · cases h
    rfl

theorem ne_of_tokens_plain {argv : List String} {s : String} {ts : List Token}
    (h : tokens argv = .ok (.plain s :: ts)) : s ≠ "--" := by
  cases argv with
  | nil => cases h
  | cons s' rest =>
    rw [tokens] at h
    split at h
    · cases h
    · next hne =>
      split at h
      · cases h
      · next t hclassify =>
        obtain ⟨ts', -, hcons⟩ := map_eq_ok_iff.1 h
        cases hcons
        rwa [eq_of_classify_plain hclassify]

theorem isChain_tokens {argv : List String} {ts : List Token} (h : tokens argv = .ok ts) :
    ts.IsChain Follows := by
  induction argv generalizing ts with
  | nil =>
    cases h
    exact .nil
  | cons s rest ih =>
    rw [tokens] at h
    split at h
    · cases h
      refine List.isChain_cons.2 ⟨fun _ _ => trivial, (List.isChain_map _).2 ?_⟩
      exact (List.pairwise_of_forall fun _ _ => trivial).isChain
    · split at h
      · cases h
      · next t _ =>
        obtain ⟨ts', hts', rfl⟩ := map_eq_ok_iff.1 h
        refine List.isChain_cons.2 ⟨fun u hu => ?_, ih hts'⟩
        cases ts' with
        | nil => cases hu
        | cons v more =>
          obtain rfl : v = u := Option.some.inj hu
          cases t <;> cases v <;> first | trivial | exact ne_of_tokens_plain hts'

theorem solver_takeFlags {flags : List Flag} {a b : Arguments} (h : takeFlags flags a = some b) :
    b.solver = a.solver := by
  fun_induction takeFlags flags a
  case case1 =>
    cases h
    rfl
  case case2 => cases h
  case case3 ih | case4 ih | case5 ih | case6 ih => exact ih h

theorem SolverChoice.attached_ne (s : String) : SolverChoice.attached s ≠ .named "--" := by
  rw [attached]
  split
  · nofun
  · next hne => exact fun h => hne (SolverChoice.named.inj h)

/-- Taking arguments never makes `--` the name. -/
theorem take_ne_named {ts : List Token} {a b : Arguments} {left : List String}
    (hts : ts.IsChain Follows) (ha : a.solver ≠ .named "--")
    (h : take ts a left = .ok (.run b)) : b.solver ≠ .named "--" := by
  fun_induction take ts a left
  case case1 =>
    cases h
    exact ha
  -- What is no option is left over.
  case case3 ih | case4 ih | case5 ih => exact ih hts.tail ha h
  -- The value is attached.
  case case8 ih => exact ih hts.tail (SolverChoice.attached_ne _) h
  -- The value is the next argument, which stands right behind an option.
  case case10 ih =>
    obtain ⟨hfollows, hrest⟩ := List.isChain_cons_cons.1 hts
    exact ih hrest.tail (fun hnamed => hfollows (SolverChoice.named.inj hnamed)) h
  -- There are only flags without values.
  case case13 hflags ih => exact ih hts.tail (by rwa [solver_takeFlags hflags]) h
  all_goals cases h

/-- The names that a command line can give are all but `--`. -/
theorem exists_parse_named_iff {name : String} :
    (∃ argv a, parse argv = .ok (.run a) ∧ a.solver = .named name) ↔ name ≠ "--" := by
  constructor
  · rintro ⟨argv, a, hparse, hnamed⟩ rfl
    rw [parse] at hparse
    split at hparse
    · cases hparse
    · next ts htokens => exact take_ne_named (isChain_tokens htokens) (by simp) hparse hnamed
  · intro hne
    exact ⟨_, _, parse_solver name, if_neg hne⟩

/-! ## The run -/

variable {r : Registry (Factory Float)} {around : Surroundings} {name : String}

theorem execute_listSolvers (r : Registry (Factory Float)) (around : Surroundings) :
    execute r around ["--list-solvers"] =
      .ok { exit := 0, stdout := String.join (r.names.map (· ++ "\n")) } := by
  rw [execute, parse_listSolvers]
  rfl

/-- A registered name that the command line gives is resolved to its own backend. -/
theorem resolveAndSolve_named (around : Surroundings) (hhas : r.has (.text name) = true)
    (m : Model Float) :
    resolveAndSolve r around (.named name) m = (r.create (.text name)).bind (solve · m) := by
  have hchosen : Registry.chosen? (SolverChoice.named name).literal m.preferred = .ok (some name) :=
    Registry.chosen?_of_stated? (Registry.stated?_of_states (Registry.states_of_has hhas))
  obtain ⟨f, -, hcreate⟩ := Registry.exists_create_of_has hhas
  rw [resolveAndSolve, Registry.resolve_of_chosen hchosen, hcreate]
  cases f with
  | error text => rfl
  | ok adapter =>
    simp only [Except.mapError, Except.bind]
    cases solve adapter m <;> rfl

/-- A run that states the demonstration model first. -/
def opened (rest : Except (Error Float) Report) : Except (Error Float) Report :=
  rest.map fun report =>
    { report with
      events := demoModel.events ++ [.described demoModel.state.description] ++ report.events }

/-- A run that solves the demonstration model with the backend registered under a name. -/
def solvedWith (r : Registry (Factory Float)) (name : String) : Except (Error Float) Report :=
  opened ((r.create (.text name)).bind (solve · demoModel.state))

theorem execute_of_parse {argv : List String} {choice : SolverChoice}
    (h : parse argv = .ok (.run { solver := choice })) :
    execute r around argv = opened (resolveAndSolve r around choice demoModel.state) := by
  rw [execute, h, opened]
  dsimp only
  rw [run, if_neg Bool.false_ne_true]
  dsimp only
  rw [if_neg Bool.false_ne_true]

/-- A command line that names a registered backend solves with it. -/
theorem execute_named {argv : List String} (hhas : r.has (.text name) = true)
    (h : parse argv = .ok (.run { solver := .named name })) :
    execute r around argv = solvedWith r name := by
  rw [execute_of_parse h, resolveAndSolve_named around hhas, solvedWith]

/-- A `--` is removed, and what is left has no name to look up. -/
theorem execute_solver_dashes (r : Registry (Factory Float)) (around : Surroundings) :
    execute r around ["--solver=--"] = .error (.notText .sequence) := by
  have hparse : parse ["--solver=--"] = .ok (.run { solver := .emptied }) := parse_solver "--"
  rw [execute_of_parse hparse]
  generalize demoModel.state = m
  have hrefused : r.resolve {} around (SolverChoice.literal .emptied) m.preferred =
      .fail {} (.notText .sequence) := rfl
  rw [resolveAndSolve, hrefused]
  rfl

/-! ## Listed names -/

open Registry in
/-- In a registry over its whole history the listed names, membership and instances agree. The
program lists every registered name, and a command line can give it back, unless it is `--`: what
is then solved with is the backend that is registered under the name. A name that starts with no
dash can be an argument of its own. -/
theorem listed_run {start : Registry (Factory Float)} {prior : List (Registration Float)}
    (h : Starting start prior) (calls : List (Registration Float)) (around : Surroundings) :
    let r := start.run calls
    r.Coherent ∧
    execute r around ["--list-solvers"] =
      .ok { exit := 0, stdout := String.join (r.names.map (· ++ "\n")) } ∧
    ∀ name ∈ r.names,
      ((∃ argv a, parse argv = .ok (.run a) ∧ a.solver = .named name) ↔ name ≠ "--") ∧
      (name ≠ "--" → execute r around ["--solver=" ++ name] = solvedWith r name) ∧
      (name.toList.head? ≠ some '-' → execute r around ["--solver", name] = solvedWith r name) := by
  intro r
  have hnormal : r.Normal := h.normal_run calls
  refine ⟨hnormal.coherent, execute_listSolvers r around, fun name hname => ?_⟩
  have hhas := hnormal.has hname
  refine ⟨exists_parse_named_iff, fun hne => execute_named hhas ?_, fun hdash =>
    execute_named hhas (parse_solver_next hdash)⟩
  rw [parse_solver, SolverChoice.attached, if_neg hne]

/-- The registry of the built-in backends, with one more under this name. -/
def registryWith (name : String) : Registry (Factory Float) :=
  let engines : Engines Float := ⟨Engine.inequality, Engine.library, Engine.bounded, Scalar.dot⟩
  engines.registry.run [.register (.text name) (some (.ok engines.boundedAdapter))]

/-- A backend that was registered in another spelling solves under the name that is listed. -/
theorem listed_run_mine :
    let r := registryWith " Mine"
    let around : Surroundings := ⟨.empty, .ok .absent⟩
    "mine" ∈ r.names ∧ execute r around ["--solver=mine"] = solvedWith r "mine" := by
  intro r around
  have hlisted : "mine" ∈ r.names := Registry.mem_names.2 (by decide +kernel)
  obtain ⟨-, -, hnamed⟩ := listed_run
    (.builtin ⟨Engine.inequality, Engine.library, Engine.bounded, Scalar.dot⟩)
    [.register (.text " Mine") (some (.ok (Engines.boundedAdapter
      ⟨Engine.inequality, Engine.library, Engine.bounded, Scalar.dot⟩)))] around
  exact ⟨hlisted, (hnamed "mine" hlisted).2.1 (by decide)⟩

/-- A backend that is listed as `--` cannot be given back. -/
theorem listed_run_dashes :
    "--" ∈ (registryWith "--").names ∧
    (∀ around, execute (registryWith "--") around ["--solver=--"] =
      .error (.notText .sequence)) ∧
    ¬ ∃ argv a, parse argv = .ok (.run a) ∧ a.solver = .named "--" := by
  refine ⟨Registry.mem_names.2 (by decide +kernel), execute_solver_dashes (registryWith "--"), ?_⟩
  rw [exists_parse_named_iff]
  exact fun hne => hne rfl

end LinearDispatch.CommandLine
