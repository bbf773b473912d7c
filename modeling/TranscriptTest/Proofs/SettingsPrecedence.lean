import TranscriptTest.Config.Settings

/-!
# Where each setting comes from

Each setting is taken from the command line when given there, else from the configuration file,
else from its built-in default (`resolve_precedence`). The exceptions are the rules between
settings: a prompt given on the command line discards the file's continuation prompt, the
interpreter's arguments depend on the command finally chosen, and only a command from the file
is taken relative to the file's directory. Resolving fails exactly when the prompts or the
identity pattern cannot be used, the prompts being checked first.
-/

namespace TranscriptTest.Identity

/-- A new normalizer starts with consistent-identity mode off. -/
theorem Normalizer.new_fresh {pattern placeholder : String} {n : Normalizer}
    (h : Normalizer.new pattern placeholder = .ok n) : { n with consistent := false } = n := by
  unfold Normalizer.new at h
  split at h
  · cases h
  · split at h <;> cases h
    rfl

end TranscriptTest.Identity

namespace TranscriptTest.Config

open TranscriptTest.Transcript TranscriptTest.Identity TranscriptTest.Text

/-- The prompts from a primary prompt and perhaps a continuation prompt: refused when either is
empty, and without a continuation one of the primary prompt's width. -/
theorem prompts_of_continuation (primary : String) (continuation : Option String) :
    (match continuation with
      | some c => Prompts.withContinuation primary c
      | none => Prompts.new primary) =
      if primary = "" ∨ continuation = some "" then .error .emptyPrompt
      else .ok ⟨primary, continuation.getD
        (String.ofList (List.replicate (primary.length - 1) ' ') ++ ">")⟩ := by
  cases continuation with
  | none => by_cases hp : primary = "" <;> simp [Prompts.new, hp]
  | some c =>
    by_cases hp : primary = "" <;> by_cases hc : c = "" <;>
      simp [Prompts.withContinuation, hp, hc]

/-- Every setting is the command line's value, else the configuration file's, else the default,
with the rules between settings: the command from the file is taken beside the file, the
arguments follow the command chosen, and a prompt from the command line brings its own
continuation. Resolving fails exactly when the prompts are empty (checked first) or the identity
pattern cannot be used. -/
theorem resolve_precedence (file : Option (ConfigFile × String)) (o : Overrides) :
    let raw := (file.map (·.1)).getD {}
    let interp := raw.interpreter.getD {}
    let identity := raw.identity.getD {}
    let primary := (o.prompt.orElse fun _ => (raw.prompts.getD {}).primary).getD
      Prompts.standard.primary
    let continuation := if o.prompt.isSome then none else (raw.prompts.getD {}).continuation
    let pattern := (o.identityPattern.orElse fun _ => identity.pattern).getD defaultPattern
    let placeholder := identity.placeholder.getD defaultPlaceholder
    (∀ e, resolve file o = .error e ↔
      if primary = "" ∨ continuation = some "" then e = .emptyPrompt
      else Normalizer.new pattern placeholder = .error e) ∧
    ∀ s, resolve file o = .ok s →
      s.command = (match o.command, interp.command, file with
        | some c, _, _ => trim c
        | none, some c, some (_, path) => commandBeside (trim c) path
        | none, some c, none => trim c
        | none, none, _ => defaultCommand) ∧
      s.args = (match interp.args with
        | some a => some a
        | none => if runsDriver s.command then none else some []) ∧
      s.timeout = (o.timeout.orElse fun _ => interp.timeout).getD defaultTimeout ∧
      s.prologue = (o.prologue.orElse fun _ => raw.prologue) ∧
      s.prompts = ⟨primary, continuation.getD
        (String.ofList (List.replicate (primary.length - 1) ' ') ++ ">")⟩ ∧
      Normalizer.new pattern placeholder = .ok { s.normalizer with consistent := false } ∧
      s.normalizer.consistent = (o.consistentIdentity || identity.consistent.getD false) ∧
      s.extensions = (raw.extensions.getD ["js"]).map
        (fun e => String.ofList ((trim e).toList.dropWhile (· == '.'))) ∧
      s.group = (o.group.orElse fun _ => raw.group).getD defaultGroup := by
  unfold resolve
  simp only []
  -- name the layered values, which the statement and the definition share
  generalize (Option.map (fun x => x.fst) file).getD {} = raw
  generalize (if o.prompt.isSome = true then none else (raw.prompts.getD {}).continuation) = cont
  generalize (o.prompt.orElse fun _ => (raw.prompts.getD {}).primary).getD
    Prompts.standard.primary = primary
  generalize (o.identityPattern.orElse fun _ => (raw.identity.getD {}).pattern).getD
    defaultPattern = pattern
  generalize (raw.identity.getD {}).placeholder.getD defaultPlaceholder = placeholder
  have hp := prompts_of_continuation primary cont
  -- the two steps that can fail: the prompts, then the normalizer
  by_cases hbad : primary = "" ∨ cont = some ""
  · simp only [if_pos hbad] at hp ⊢
    cases cont <;> simp only [] at hp <;> simp only [hp] <;>
      exact ⟨fun e => ⟨fun h => by cases h; rfl, fun h => by rw [h]; rfl⟩, fun s h => by cases h⟩
  · simp only [if_neg hbad] at hp ⊢
    cases hn : Normalizer.new pattern placeholder with
    | error e₀ =>
      cases cont <;> simp only [] at hp <;> simp only [hp] <;>
        exact ⟨fun e => ⟨fun h => by cases h; rfl, fun h => by cases h; rfl⟩, fun s h => by cases h⟩
    | ok nz =>
      -- every setting is then read off the assembled record
      cases cont <;> simp only [] at hp <;> simp only [hp] <;>
        refine ⟨fun e => ⟨fun h => (by cases h), fun h => (by cases h)⟩, fun s h => ?_⟩ <;>
        cases h <;>
        exact ⟨rfl, rfl, rfl, rfl, rfl, (Normalizer.new_fresh hn).symm ▸ rfl, rfl, rfl, rfl⟩

end TranscriptTest.Config
