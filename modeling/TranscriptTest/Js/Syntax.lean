/-!
# Script syntax

Tokens and syntax trees of the scripts the bundled read-eval-print driver runs. A token knows
where it starts and ends in the source (in characters) and whether a line break comes before
it, which decides where a statement may end without a semicolon. Functions keep the text they
were written as, because printing a function prints that text.
-/

namespace TranscriptTest.Js

/-- Why a script cannot be read; `SyntaxIssue.message` gives the text a reader sees. -/
inductive SyntaxIssue where
  | invalidToken
  | unexpectedToken (text : String)
  | unexpectedIdentifier (name : String)
  | unexpectedNumber
  | unexpectedString
  | unexpectedTemplate
  | unexpectedEnd
  | unexpectedReserved
  | missingParenAfterArgs
  | alreadyDeclared (name : String)
  | invalidAssignmentTarget
  | invalidPrefixTarget
  | invalidPostfixTarget
  | invalidForTarget
  | missingInitializer (kind : String)
  | illegalReturn
  | illegalBreak
  | illegalContinue
  | undefinedLabel (name : String)
  | labelRedeclared (name : String)
  | unterminatedTemplate
  | invalidHexEscape
  | invalidUnicodeEscape
  | missingCatchOrFinally
  | newlineAfterThrow
  | multipleDefaults
  | duplicateConstructor
  | invalidDestructuringTarget
  | restNotLast
  | unexpectedSuper
  | malformedArrowParams
  | invalidShorthandInitializer
  | lexicalInSingleStatement
  | missingFunctionName
  | unaryBeforeExponent
  | letAsLexicalName
  | accessorConstructor
  | generatorConstructor
  | asyncConstructor
  | duplicateProto
  /-- A `for … in` or `for … of` head (`loop` is `for-in` or `for-of`) declaring more than one
  name. -/
  | forMultiBinding (loop : String)
  /-- A `for … in` or `for … of` head whose declaration has an initializer. -/
  | forInitializer (loop : String)
  | awaitOutsideAsync
  | importOutsideModule
  | tooDeep
  /-- A regular expression literal that cannot be read; the text says why. -/
  | badPattern (text : String)
  | unexpectedPattern
  | newTargetOutside
  | taggedOnChain
  | undeclaredPrivate (name : String)
  | deletePrivate
  | continueNonLoop (label : String)
  | getterArity
  | setterArity
  | setterRest
  | duplicateParameter
  | staticPrototype
  | constructorField
  | strictNonSimple
  | strictEvalArguments
  | strictOctal
  | strictLeadingZero
  | strictOctalEscape
  | strictEightNine
  | strictWith
  | strictDelete
  | strictReserved
  | sloppyFunction
  | strictFunction
  | undefinedCodePoint
  | continuousSeparator
  | trailingSeparator
  | zeroSeparator
  deriving Inhabited, BEq

/-- The text of a syntax issue. -/
def SyntaxIssue.message : SyntaxIssue -> String
  | .invalidToken => "Invalid or unexpected token"
  | .unexpectedToken t => "Unexpected token '" ++ t ++ "'"
  | .unexpectedIdentifier n => "Unexpected identifier '" ++ n ++ "'"
  | .unexpectedNumber => "Unexpected number"
  | .unexpectedString => "Unexpected string"
  | .unexpectedTemplate => "Unexpected template string"
  | .unexpectedEnd => "Unexpected end of input"
  | .unexpectedReserved => "Unexpected reserved word"
  | .missingParenAfterArgs => "missing ) after argument list"
  | .alreadyDeclared n => "Identifier '" ++ n ++ "' has already been declared"
  | .invalidAssignmentTarget => "Invalid left-hand side in assignment"
  | .invalidPrefixTarget => "Invalid left-hand side expression in prefix operation"
  | .invalidPostfixTarget => "Invalid left-hand side expression in postfix operation"
  | .invalidForTarget => "Invalid left-hand side in for-loop"
  | .missingInitializer k => "Missing initializer in " ++ k ++ " declaration"
  | .illegalReturn => "Illegal return statement"
  | .illegalBreak => "Illegal break statement"
  | .illegalContinue => "Illegal continue statement: no surrounding iteration statement"
  | .undefinedLabel n => "Undefined label '" ++ n ++ "'"
  | .labelRedeclared n => "Label '" ++ n ++ "' has already been declared"
  | .unterminatedTemplate => "Unterminated template literal"
  | .invalidHexEscape => "Invalid hexadecimal escape sequence"
  | .invalidUnicodeEscape => "Invalid Unicode escape sequence"
  | .missingCatchOrFinally => "Missing catch or finally after try"
  | .newlineAfterThrow => "Illegal newline after throw"
  | .multipleDefaults => "More than one default clause in switch statement"
  | .duplicateConstructor => "A class may only have one constructor"
  | .invalidDestructuringTarget => "Invalid destructuring assignment target"
  | .restNotLast => "Rest parameter must be last formal parameter"
  | .unexpectedSuper => "'super' keyword unexpected here"
  | .malformedArrowParams => "Malformed arrow function parameter list"
  | .invalidShorthandInitializer => "Invalid shorthand property initializer"
  | .lexicalInSingleStatement => "Lexical declaration cannot appear in a single-statement context"
  | .missingFunctionName => "Function statements require a function name"
  | .unaryBeforeExponent =>
    "Unary operator used immediately before exponentiation expression. " ++
    "Parenthesis must be used to disambiguate operator precedence"
  | .letAsLexicalName => "let is disallowed as a lexically bound name"
  | .accessorConstructor => "Class constructor may not be an accessor"
  | .generatorConstructor => "Class constructor may not be a generator"
  | .asyncConstructor => "Class constructor may not be an async method"
  | .duplicateProto => "Duplicate __proto__ fields are not allowed in object literals"
  | .forMultiBinding loop => "Invalid left-hand side in " ++ loop ++ " loop: Must have a single binding."
  | .forInitializer loop => loop ++ " loop variable declaration may not have an initializer."
  | .awaitOutsideAsync =>
    "await is only valid in async functions and the top level bodies of modules"
  | .importOutsideModule => "Cannot use import statement outside a module"
  | .tooDeep => "Maximum call stack size exceeded"
  | .badPattern t => t
  | .unexpectedPattern => "Unexpected regular expression"
  | .newTargetOutside => "new.target expression is not allowed here"
  | .taggedOnChain => "Invalid tagged template on optional chain"
  | .undeclaredPrivate n => "Private field '#" ++ n ++ "' must be declared in an enclosing class"
  | .deletePrivate => "Private fields can not be deleted"
  | .continueNonLoop l =>
    "Illegal continue statement: '" ++ l ++ "' does not denote an iteration statement"
  | .getterArity => "Getter must not have any formal parameters."
  | .setterArity => "Setter must have exactly one formal parameter."
  | .setterRest => "Setter function argument must not be a rest parameter"
  | .duplicateParameter => "Duplicate parameter name not allowed in this context"
  | .staticPrototype => "Classes may not have a static property named 'prototype'"
  | .constructorField => "Classes may not have a field named 'constructor'"
  | .strictNonSimple => "Illegal 'use strict' directive in function with non-simple parameter list"
  | .strictEvalArguments => "Unexpected eval or arguments in strict mode"
  | .strictOctal => "Octal literals are not allowed in strict mode."
  | .strictLeadingZero => "Decimals with leading zeros are not allowed in strict mode."
  | .strictOctalEscape => "Octal escape sequences are not allowed in strict mode."
  | .strictEightNine => "\\8 and \\9 are not allowed in strict mode."
  | .strictWith => "Strict mode code may not include a with statement"
  | .strictDelete => "Delete of an unqualified identifier in strict mode."
  | .strictReserved => "Unexpected strict mode reserved word"
  | .sloppyFunction =>
    "In non-strict mode code, functions can only be declared at top level, inside a block, " ++
    "or as the body of an if statement."
  | .strictFunction =>
    "In strict mode code, functions can only be declared at top level or inside a block."
  | .undefinedCodePoint => "Undefined Unicode code-point"
  | .continuousSeparator => "Only one underscore is allowed as numeric separator"
  | .trailingSeparator => "Numeric separators are not allowed at the end of numeric literals"
  | .zeroSeparator => "Numeric separator can not be used after leading 0."

/-- A token of a script. -/
inductive TokenKind where
  | ident (name : String)
  /-- A reserved word, or `true`, `false`, `null`. -/
  | keyword (word : String)
  | num (value : Float)
  /-- An integer literal such as `10n`. -/
  | bigint (value : Nat)
  | str (value : String)
  /-- A template literal without substitutions. -/
  | templateFull (text : String)
  /-- The text of a template literal up to its first substitution. -/
  | templateHead (text : String)
  /-- The text between two substitutions. -/
  | templateMiddle (text : String)
  /-- The text after the last substitution. -/
  | templateTail (text : String)
  /-- A regular expression literal: its body and its flags. -/
  | pattern (body flags : String)
  /-- A private name `#name`, without its `#`. -/
  | privateName (name : String)
  | punct (p : String)
  /-- Text that is no token; the reader stops here. -/
  | illegal (issue : SyntaxIssue)
  | eof
  deriving Inhabited

/-- A token with its place: first and one-past-last character, and whether a line break comes
before it. -/
structure Token where
  kind : TokenKind
  start : Nat
  stop : Nat
  newlineBefore : Bool
  deriving Inhabited

/-- A place in the text of an input, as stack traces show it: line and column, both counted
from 1. -/
structure Site where
  line : Nat := 1
  column : Nat := 1
  deriving Inhabited, BEq

/-- How a name is declared. -/
inductive DeclKind where
  | var
  | letDecl
  | constDecl
  deriving Inhabited, BEq

mutual

/-- An expression. -/
inductive Expr where
  | num (value : Float)
  /-- An integer literal such as `10n`. -/
  | bigint (value : Nat)
  | str (value : String)
  | template (pieces : List String) (parts : List Expr)
  /-- A regular expression literal: its body and its flags. -/
  | pattern (body flags : String)
  | bool (value : Bool)
  | null
  | this
  | ident (name : String)
  | array (items : List Item)
  | object (props : List Property)
  | func (f : Func)
  | classExpr (c : ClassDef)
  | unary (op : String) (arg : Expr)
  | update (op : String) (isPrefix : Bool) (target : Expr)
  | binary (op : String) (lhs rhs : Expr)
  | logical (op : String) (lhs rhs : Expr)
  | assign (op : String) (target : Pattern) (value : Expr)
  | cond (test yes no : Expr)
  /-- A call; `site` is where stack traces place it: at the name called, or else at `(`. -/
  | call (callee : Expr) (args : List Item) (optional : Bool) (site : Site)
  /-- `new`; `site` is where its keyword stands. -/
  | new (callee : Expr) (args : List Item) (site : Site)
  | member (obj : Expr) (name : String) (optional : Bool)
  | index (obj : Expr) (key : Expr) (optional : Bool)
  | seq (first second : Expr)
  | superCall (args : List Item)
  | superMember (name : String)
  /-- `new.target`: the constructor `new` was applied to, or `undefined`. -/
  | newTarget
  /-- `obj.#name`: a private member. -/
  | privateMember (obj : Expr) (name : String) (optional : Bool)
  /-- `#name` before `in`, which asks whether an object has the private member. -/
  | privateName (name : String)
  /-- The strings of a tagged template: an array of the cooked texts with the raw texts as its
  `raw` property. -/
  | templateStrings (cooked raw : List String)
  /-- An optional chain: a `?.` inside it that meets `null` or `undefined` makes the whole
  chain `undefined`. -/
  | chain (e : Expr)
  /-- `yield` in a generator, with its operand if it has one; `yield*` when `delegate`. -/
  | yieldExpr (arg : Option Expr) (delegate : Bool)
  /-- `await` in an `async` function. -/
  | awaitExpr (arg : Expr)

/-- An element of an array literal or an argument list. -/
inductive Item where
  | hole
  | one (e : Expr)
  | spread (e : Expr)

/-- A member of an object literal. -/
inductive Property where
  | field (key : Key) (value : Expr)
  | getter (key : Key) (f : Func)
  | setter (key : Key) (f : Func)
  | spread (e : Expr)

/-- The key of a member: a name or a computed expression. -/
inductive Key where
  | named (name : String)
  | computed (e : Expr)
  /-- A private name of a class member, without its `#`. -/
  | privateName (name : String)

/-- What an assignment or a declaration binds: a name, a member, or a destructuring pattern. -/
inductive Pattern where
  | name (n : String)
  | expr (e : Expr)
  | array (items : List (Option Pattern)) (rest : Option Pattern)
  | object (props : List (Key × Pattern)) (rest : Option String)
  | withDefault (p : Pattern) (value : Expr)

/-- A function: name, parameters, body, its source text, whether its code is strict, and
whether it is a generator (`function*`) or `async`. -/
inductive Func where
  | mk (name : Option String) (params : List Pattern) (rest : Option Pattern) (body : List Stmt)
      (concise : Option Expr) (arrow : Bool) (isMethod : Bool) (source : String) (strict : Bool)
      (generator : Bool) (async : Bool)

/-- A member of a class body; the flag says whether it belongs to the class itself rather than
to its instances. -/
inductive ClassMember where
  | method (isStatic : Bool) (key : Key) (f : Func)
  | getter (isStatic : Bool) (key : Key) (f : Func)
  | setter (isStatic : Bool) (key : Key) (f : Func)
  | field (isStatic : Bool) (key : Key) (value : Option Expr)
  /-- A `static { … }` block, run once with the class as `this`, kept as a method's body. -/
  | staticBlock (body : Func)

/-- A class: name, parent, constructor, and members. -/
inductive ClassDef where
  | mk (name : Option String) (parent : Option Expr) (ctor : Option Func)
      (members : List ClassMember) (source : String)

/-- A statement. -/
inductive Stmt where
  | expr (e : Expr)
  | decl (kind : DeclKind) (items : List (Pattern × Option Expr))
  | funcDecl (f : Func)
  | classDecl (c : ClassDef)
  | ret (e : Option Expr)
  | ifThen (test : Expr) (yes : Stmt) (no : Option Stmt)
  | forLoop (init : Option Stmt) (test : Option Expr) (update : Option Expr) (body : Stmt)
  | forIn (kind : Option DeclKind) (target : Pattern) (obj : Expr) (body : Stmt) (isOf : Bool)
  | whileLoop (test : Expr) (body : Stmt)
  | doWhile (body : Stmt) (test : Expr)
  | block (body : List Stmt)
  | throwStmt (e : Expr)
  | tryStmt (body : List Stmt) (param : Option Pattern) (handler : Option (List Stmt))
      (finalizer : Option (List Stmt))
  | breakStmt (label : Option String)
  | continueStmt (label : Option String)
  | labeled (label : String) (body : Stmt)
  | switchStmt (subject : Expr) (cases : List (Option Expr × List Stmt))
  | empty

end

instance : Inhabited Expr := ⟨.null⟩
instance : Inhabited Stmt := ⟨.empty⟩
instance : Inhabited Func := ⟨.mk none [] none [] none false false "" false false false⟩
instance : Inhabited ClassDef := ⟨.mk none none none [] ""⟩
instance : Inhabited Pattern := ⟨.name ""⟩

/-- The private name a class member declares, if it has one. -/
def ClassMember.privateName? : ClassMember -> Option String
  | .method _ (.privateName n) _ => some n
  | .getter _ (.privateName n) _ => some n
  | .setter _ (.privateName n) _ => some n
  | .field _ (.privateName n) _ => some n
  | _ => none

/-- A function's name. -/
def Func.name : Func -> Option String
  | .mk n .. => n

/-- A function's source text. -/
def Func.source : Func -> String
  | .mk _ _ _ _ _ _ _ s _ _ _ => s

/-- Whether a function is an arrow function. -/
def Func.arrow : Func -> Bool
  | .mk _ _ _ _ _ a _ _ _ _ _ => a

/-- The number of parameters before the first one with a default or the rest. -/
def Func.length : Func -> Nat
  | .mk _ params _ _ _ _ _ _ _ _ _ =>
    (params.takeWhile fun
      | .withDefault .. => false
      | _ => true).length

/-- Whether a function is a method of an object literal or a class. -/
def Func.isMethod : Func -> Bool
  | .mk _ _ _ _ _ _ m _ _ _ _ => m

/-- Whether a function's code is strict. -/
def Func.strict : Func -> Bool
  | .mk _ _ _ _ _ _ _ _ t _ _ => t

/-- Whether a function is a generator. -/
def Func.isGenerator : Func -> Bool
  | .mk _ _ _ _ _ _ _ _ _ g _ => g

/-- Whether a function is `async`. -/
def Func.isAsync : Func -> Bool
  | .mk _ _ _ _ _ _ _ _ _ _ y => y

/-- A function with another source text. -/
def Func.withSource (f : Func) (s : String) : Func :=
  match f with
  | .mk n p r b c a m _ t g y => .mk n p r b c a m s t g y

/-- A class's name. -/
def ClassDef.name : ClassDef -> Option String
  | .mk n .. => n

mutual

/-- The names a pattern binds, in order. -/
def Pattern.names : Pattern -> List String
  | .name n => [n]
  | .expr _ => []
  | .array items rest =>
    namesOfItems items ++ (match rest with
      | some r => r.names
      | none => [])
  | .object props rest => namesOfProps props ++ rest.toList
  | .withDefault p _ => p.names

/-- The names bound by the items of an array pattern. -/
def namesOfItems : List (Option Pattern) -> List String
  | [] => []
  | none :: rest => namesOfItems rest
  | some p :: rest => p.names ++ namesOfItems rest

/-- The names bound by the members of an object pattern. -/
def namesOfProps : List (Key × Pattern) -> List String
  | [] => []
  | (_, p) :: rest => p.names ++ namesOfProps rest

end

end TranscriptTest.Js
