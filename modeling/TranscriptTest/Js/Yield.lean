import TranscriptTest.Js.Syntax

/-!
# Where a generator stops

A generator runs its body until a `yield`, hands out the operand's value, and waits; the value
it is sent next takes the place of the `yield`. An `async` function stops the same way at each
`await`, and the promise awaited sends in its value.
-/

namespace TranscriptTest.Js

/-- How the value of a deciding part chooses the way on. -/
inductive PartTest where
  /-- By whether the value is truthy, as `&&`, `||`, `?:` and the comma choose. -/
  | truthy
  /-- By whether the value is `null` or `undefined`, as `??` chooses. -/
  | nullish

/-- The first `yield` an expression or a statement reaches, with what stands around it. -/
inductive YieldSite (α : Type) where
  /-- A `yield` (`yield*` when `delegate`) with its operand; `fill` puts an expression in its
  place. -/
  | yieldAt (arg : Option Expr) (delegate : Bool) (fill : Expr -> α)
  /-- A part whose value chooses whether a `yield` runs: given the hole that holds the part's
  value, `onTrue` goes on when the test holds, `onFalse` when not. -/
  | decideAt (part : Expr) (test : PartTest) (onTrue onFalse : Expr -> α)
  /-- A part evaluated before a `yield` after it: given the hole that holds its value, `rest`
  goes on. -/
  | settle (part : Expr) (rest : Expr -> α)

/-- A site inside a larger whole: the same place, with `g` building the whole around it. -/
def YieldSite.map {α β : Type} (g : α -> β) : YieldSite α -> YieldSite β
  | .yieldAt arg delegate fill => .yieldAt arg delegate (g ∘ fill)
  | .decideAt part test onTrue onFalse => .decideAt part test (g ∘ onTrue) (g ∘ onFalse)
  | .settle part rest => .settle part (g ∘ rest)

/-- The name of the hole numbered `n` of a statement; no script can write it. -/
def holeName (n : Nat) : String := "%" ++ toString n

/-- Whether evaluating an expression early would change nothing: a literal, `this`, or a hole. -/
def Expr.settled : Expr -> Bool
  | .num _ | .bigint _ | .str _ | .bool _ | .null | .this | .newTarget | .privateName _ => true
  | .ident n => n.startsWith "%"
  | _ => false

/-- The part `before` is evaluated first when `after`, which comes after it, reaches a `yield`;
`whole` builds the expression around the part's value. -/
def settleBefore {α β : Type} (before : Expr) (after : Option (YieldSite β)) (whole : Expr -> α)
    (inPlace : YieldSite β → YieldSite α) : Option (YieldSite α) :=
  match after with
  | none => none
  | some site => if before.settled then some (inPlace site) else some (.settle before whole)

/-- The reference an assignment or a method call stands on, its object and key evaluated first
when a `yield` follows; `rebuild` puts it back together. -/
def settleReference {α : Type} (target : Expr) (rebuild : Expr → α) : Option (YieldSite α) :=
  match target with
  | .member o n opt => if o.settled then none else some (.settle o fun h => rebuild (.member h n opt))
  | .index o k opt =>
    if !o.settled then some (.settle o fun h => rebuild (.index h k opt))
    else if !k.settled then some (.settle k fun h => rebuild (.index o h opt))
    else none
  | _ => none

mutual

/-- The first `yield` an expression reaches, or `none` when it holds none. -/
def Expr.takeYield : Expr -> Option (YieldSite Expr)
  | .yieldExpr arg delegate =>
    match arg with
    | some a =>
      match a.takeYield with
      | some site => some (site.map fun a => .yieldExpr (some a) delegate)
      | none => some (.yieldAt arg delegate id)
    | none => some (.yieldAt none delegate id)
  | .awaitExpr a =>
    match a.takeYield with
    | some site => some (site.map .awaitExpr)
    | none => some (.yieldAt (some a) false id)
  | .template pieces parts => (takeYieldList parts).map (·.map (.template pieces ·))
  | .array items => (takeYieldItems items).map (·.map .array)
  | .object props => (takeYieldProps props).map (·.map .object)
  | .unary op a => a.takeYield.map (·.map (.unary op ·))
  | .update op isPrefix target => target.takeYield.map (·.map (.update op isPrefix ·))
  | .binary op l r =>
    match l.takeYield with
    | some site => some (site.map (.binary op · r))
    | none => settleBefore l r.takeYield (.binary op · r) (·.map (.binary op l ·))
  | .logical op l r =>
    match l.takeYield with
    | some site => some (site.map (.logical op · r))
    | none =>
      match r.takeYield with
      | none => none
      | some _ =>
        if op == "??" then some (.decideAt l .nullish (fun _ => r) id)
        else if op == "&&" then some (.decideAt l .truthy (fun _ => r) id)
        else some (.decideAt l .truthy id (fun _ => r))
  | .assign op target value =>
    match value.takeYield with
    | none => none
    | some site =>
      let reference := match target with
        | .expr e => settleReference e fun e => .assign op (.expr e) value
        | _ => none
      match reference with
      | some first => some first
      | none =>
        -- a compound assignment reads its target before the right side runs
        let read := match target with
          | .name n => some (Expr.ident n)
          | .expr e => some e
          | _ => none
        match read with
        | some old =>
          if op == "=" || op == "&&=" || op == "||=" || op == "??=" then
            some (site.map (.assign op target ·))
          else
            some (.settle old fun h => .assign "=" target (.binary ((op.dropEnd 1).toString) h value))
        | none => some (site.map (.assign op target ·))
  | .cond t yes no =>
    match t.takeYield with
    | some site => some (site.map (.cond · yes no))
    | none =>
      match yes.takeYield, no.takeYield with
      | none, none => none
      | _, _ => some (.decideAt t .truthy (fun _ => yes) (fun _ => no))
  | .call callee args optional place =>
    match callee.takeYield with
    | some site => some (site.map (.call · args optional place))
    | none =>
      match takeYieldItems args with
      | none => none
      | some site =>
        match callee with
        | .member .. | .index .. =>
          match settleReference callee fun c => .call c args optional place with
          | some first => some first
          | none => some (site.map (.call callee · optional place))
        | .ident _ | .superMember _ => some (site.map (.call callee · optional place))
        | _ => settleBefore callee (some site) (.call · args optional place) (·.map (.call callee · optional place))
  | .new callee args place =>
    match callee.takeYield with
    | some site => some (site.map (.new · args place))
    | none => settleBefore callee (takeYieldItems args) (.new · args place) (·.map (.new callee · place))
  | .member obj name optional => obj.takeYield.map (·.map (.member · name optional))
  | .index obj key optional =>
    match obj.takeYield with
    | some site => some (site.map (.index · key optional))
    | none => settleBefore obj key.takeYield (.index · key optional) (·.map (.index obj · optional))
  | .seq first second =>
    match first.takeYield with
    | some site => some (site.map (.seq · second))
    | none =>
      match second.takeYield with
      | none => none
      | some _ => some (.settle first fun _ => second)
  | .superCall args => (takeYieldItems args).map (·.map .superCall)
  | .privateMember obj name optional => obj.takeYield.map (·.map (.privateMember · name optional))
  | .chain e => e.takeYield.map (·.map .chain)
  | _ => none

/-- The first `yield` of a list of expressions evaluated in order. -/
def takeYieldList : List Expr -> Option (YieldSite (List Expr))
  | [] => none
  | e :: rest =>
    match e.takeYield with
    | some site => some (site.map (· :: rest))
    | none => settleBefore e (takeYieldList rest) (· :: rest) (·.map (e :: ·))

/-- The first `yield` of the items of an array literal or an argument list. -/
def takeYieldItems : List Item -> Option (YieldSite (List Item))
  | [] => none
  | .one e :: rest =>
    match e.takeYield with
    | some site => some (site.map (.one · :: rest))
    | none => settleBefore e (takeYieldItems rest) (.one · :: rest) (·.map (.one e :: ·))
  | .spread e :: rest =>
    match e.takeYield with
    | some site => some (site.map (.spread · :: rest))
    | none => (takeYieldItems rest).map (·.map (.spread e :: ·))
  | .hole :: rest => (takeYieldItems rest).map (·.map (.hole :: ·))

/-- The first `yield` of the members of an object literal: a computed key, then the value. -/
def takeYieldProps : List Property -> Option (YieldSite (List Property))
  | [] => none
  | .field (.computed k) v :: rest =>
    match k.takeYield with
    | some site => some (site.map fun k => .field (.computed k) v :: rest)
    | none =>
      match v.takeYield with
      | some site => some (site.map fun v => .field (.computed k) v :: rest)
      | none => (takeYieldProps rest).map (·.map (.field (.computed k) v :: ·))
  | .field key v :: rest =>
    match v.takeYield with
    | some site => some (site.map fun v => .field key v :: rest)
    | none => settleBefore v (takeYieldProps rest) (.field key · :: rest) (·.map (.field key v :: ·))
  | .spread e :: rest =>
    match e.takeYield with
    | some site => some (site.map fun e => .spread e :: rest)
    | none => (takeYieldProps rest).map (·.map (.spread e :: ·))
  | p :: rest => (takeYieldProps rest).map (·.map (p :: ·))

end

/-- Whether an expression holds a `yield` outside nested functions. -/
def Expr.hasYield (e : Expr) : Bool := e.takeYield.isSome

mutual

/-- Whether a statement holds a `yield` outside nested functions, in its own expressions or in
the statements inside it. -/
def Stmt.hasYield : Stmt -> Bool
  | .expr e => e.hasYield
  | .decl _ items => declHasYield items
  | .ret (some e) => e.hasYield
  | .throwStmt e => e.hasYield
  | .ifThen t yes (some no) => t.hasYield || yes.hasYield || no.hasYield
  | .ifThen t yes none => t.hasYield || yes.hasYield
  | .forLoop init test update body =>
    (match init with
      | some s => s.hasYield
      | none => false) ||
    (match test with
      | some t => t.hasYield
      | none => false) ||
    (match update with
      | some u => u.hasYield
      | none => false) || body.hasYield
  | .forIn _ _ obj body _ => obj.hasYield || body.hasYield
  | .whileLoop t body => t.hasYield || body.hasYield
  | .doWhile body t => body.hasYield || t.hasYield
  | .block body => listHasYield body
  | .tryStmt body _ handler finalizer =>
    listHasYield body ||
    (match handler with
      | some h => listHasYield h
      | none => false) ||
    (match finalizer with
      | some f => listHasYield f
      | none => false)
  | .labeled _ body => body.hasYield
  | .switchStmt subject cases => subject.hasYield || casesHaveYield cases
  | _ => false

/-- Whether a statement list holds a `yield`. -/
def listHasYield : List Stmt -> Bool
  | [] => false
  | s :: rest => s.hasYield || listHasYield rest

/-- Whether the initializers of a declaration hold a `yield`. -/
def declHasYield : List (Pattern × Option Expr) -> Bool
  | [] => false
  | (_, some e) :: rest => e.hasYield || declHasYield rest
  | (_, none) :: rest => declHasYield rest

/-- Whether the clauses of a `switch` hold a `yield`, in their tests or their bodies. -/
def casesHaveYield : List (Option Expr × List Stmt) -> Bool
  | [] => false
  | (some t, body) :: rest => t.hasYield || listHasYield body || casesHaveYield rest
  | (none, body) :: rest => listHasYield body || casesHaveYield rest

end

/-- The first `yield` a statement's own expressions reach: those it evaluates before any
statement inside it runs. -/
def Stmt.takeYield : Stmt -> Option (YieldSite Stmt)
  | .expr e => e.takeYield.map (·.map .expr)
  | .decl kind [(p, some e)] => e.takeYield.map (·.map fun e => .decl kind [(p, some e)])
  | .ret (some e) => e.takeYield.map (·.map fun e => .ret (some e))
  | .throwStmt e => e.takeYield.map (·.map .throwStmt)
  | .ifThen t yes no => t.takeYield.map (·.map fun t => .ifThen t yes no)
  | .forIn kind target obj body isOf =>
    obj.takeYield.map (·.map fun obj => .forIn kind target obj body isOf)
  | .switchStmt subject cases => subject.takeYield.map (·.map fun e => .switchStmt e cases)
  | _ => none

/-- The label a loop's own round ends with when its test fails; no script can write it. -/
def loopExit : String := "%loop"

end TranscriptTest.Js
