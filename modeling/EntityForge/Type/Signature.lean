import EntityForge.Type.Tree

/-!
Resolving signatures to type trees. A name ends at the first delimiter; an argument list is first
cut out by counting angle brackets and then resolved on its own, one level deeper. Every step
returns what is left of the input together with a proof that it is shorter, so resolution always
ends. Positions are byte offsets into the whole text.
-/

namespace EntityForge

/-- A shape that the grammar of compiled types has and the mapping does not. -/
inductive UnsupportedShape where
  | methodTypeParameters | voidType | innerClass
  deriving DecidableEq

inductive SignatureError where
  | empty
  | unexpectedEnd (pos : Nat)
  | unexpectedChar (ch : Char) (pos : Nat)
  | unbalanced (pos : Nat)
  | emptyName (pos : Nat)
  | emptyArguments (pos : Nat)
  | tooDeep
  | tooManyDimensions (pos : Nat)
  | unsupported (shape : UnsupportedShape) (pos : Nat)
  | count (expected found : Nat)
  deriving DecidableEq

namespace Signature

/-- The deepest nesting of argument lists. -/
def maxDepth : Nat := 64

end Signature

def UnsupportedShape.label : UnsupportedShape → String
  | methodTypeParameters => "generic method type parameters"
  | voidType => "void in type position"
  | innerClass => "inner class type"

def SignatureError.message : SignatureError → String
  | empty => "signature is empty"
  | unexpectedEnd pos => s!"unexpected end of signature at {pos}"
  | unexpectedChar ch pos => s!"unexpected character '{ch}' at {pos}"
  | unbalanced pos => s!"unbalanced '<' at {pos}"
  | emptyName pos => s!"empty type name at {pos}"
  | emptyArguments pos => s!"empty type argument list at {pos}"
  | tooDeep => s!"generic nesting exceeds {Signature.maxDepth} levels"
  | tooManyDimensions pos => s!"more than 255 array dimensions at {pos}"
  | unsupported shape pos => s!"unsupported signature shape at {pos}: {shape.label}"
  | count expected found => s!"expected {expected} type(s), found {found}"

namespace Signature

def byteLength (cs : List Char) : Nat := cs.foldr (fun c n => c.utf8Size + n) 0

/-- The first byte of a character, as the character with that code. -/
def leadByte (c : Char) : Char :=
  match String.utf8EncodeChar c with
  | b :: _ => Char.ofNat b.toNat
  | [] => c

/-- The error at the head of the input: the byte that stands there, or the end of the input. -/
def unexpected (pos : Nat) : List Char → SignatureError
  | [] => .unexpectedEnd pos
  | c :: _ => .unexpectedChar (leadByte c) pos

def isClassNameChar (c : Char) : Bool :=
  !(c = ';' || c = '<' || c = '.' || c = '>' || c = '[' || c = '(' || c = ')' || c = '*' ||
    c = '+' || c = '-')

def isVariableNameChar (c : Char) : Bool :=
  !(c = ';' || c = '<' || c = '>' || c = '/' || c = '[')

/-- Cuts the input after the bracket that closes the `depth` open ones: what stands before that
bracket and what follows it. -/
def splitClosing (depth : Nat) : List Char → Option (List Char × List Char)
  | [] => none
  | '<' :: rest => (splitClosing (depth + 1) rest).map fun (inner, after) => ('<' :: inner, after)
  | '>' :: rest =>
    if depth ≤ 1 then some ([], rest)
    else (splitClosing (depth - 1) rest).map fun (inner, after) => ('>' :: inner, after)
  | c :: rest => (splitClosing depth rest).map fun (inner, after) => (c :: inner, after)

theorem splitClosing_length {cs : List Char} {depth : Nat} {inner after : List Char}
    (h : splitClosing depth cs = some (inner, after)) :
    inner.length + after.length + 1 = cs.length := by
  induction cs generalizing depth inner with
  | nil => simp [splitClosing] at h
  | cons c rest ih =>
    unfold splitClosing at h
    split at h
    · simp_all
    · next hc =>
      cases hc
      obtain ⟨⟨i, a⟩, hi, heq⟩ := Option.map_eq_some_iff.1 h
      cases heq
      have := ih hi
      simp only [List.length_cons]
      omega
    · next hc =>
      cases hc
      split at h
      · cases h
        simp
      · obtain ⟨⟨i, a⟩, hi, heq⟩ := Option.map_eq_some_iff.1 h
        cases heq
        have := ih hi
        simp only [List.length_cons]
        omega
    · next hc =>
      cases hc
      obtain ⟨⟨i, a⟩, hi, heq⟩ := Option.map_eq_some_iff.1 h
      cases heq
      have := ih hi
      simp only [List.length_cons]
      omega

structure Resolved (cs : List Char) where
  tree : TypeTree
  next : Nat
  rest : List Char
  shorter : rest.length < cs.length

abbrev Resolution (cs : List Char) := Except SignatureError (Resolved cs)

/-- Resolves every type of an input in turn; `done` is reversed. -/
def typesIn (one : Nat → (cs : List Char) → Resolution cs) (pos : Nat) (done : List TypeTree) :
    List Char → Except SignatureError (List TypeTree)
  | [] => .ok done.reverse
  | c :: cs =>
    match one pos (c :: cs) with
    | .error e => .error e
    | .ok r => typesIn one r.next (r.tree :: done) r.rest
termination_by cs => cs.length
decreasing_by exact r.shorter

/-- Resolves a type variable whose marker has been read. -/
def variableAt (pos : Nat) (cs : List Char) : Resolution cs :=
  let name := cs.takeWhile isVariableNameChar
  match hrest : cs.dropWhile isVariableNameChar with
  | ';' :: rest =>
    if name.isEmpty then .error (.emptyName pos)
    else
      .ok {
        tree := .ofVariable (String.ofList name)
        next := pos + byteLength name + 1
        rest := rest
        shorter := by
          have := congrArg List.length (List.takeWhile_append_dropWhile
            (p := isVariableNameChar) (l := cs))
          simp only [hrest, List.length_append, List.length_cons] at this
          omega }
  | rest => .error (unexpected (pos + byteLength name) rest)

/-- Resolves a class type whose marker has been read, with `inner` for its arguments. -/
def classAt (inner : Nat → (cs : List Char) → Resolution cs) (pos : Nat) (cs : List Char) :
    Resolution cs :=
  let name := cs.takeWhile isClassNameChar
  let stop := pos + byteLength name
  match hrest : cs.dropWhile isClassNameChar with
  | ';' :: rest =>
    if name.isEmpty then .error (.emptyName pos)
    else
      .ok {
        tree := .ofClass (TypeTree.dotted name)
        next := stop + 1
        rest := rest
        shorter := by
          have := congrArg List.length (List.takeWhile_append_dropWhile
            (p := isClassNameChar) (l := cs))
          simp only [hrest, List.length_append, List.length_cons] at this
          omega }
  | '<' :: rest =>
    if name.isEmpty then .error (.emptyName pos)
    else
      match hclose : splitClosing 1 rest with
      | none => .error (.unbalanced stop)
      | some ([], _) => .error (.emptyArguments stop)
      | some (arguments, after) =>
        match typesIn inner (stop + 1) [] arguments with
        | .error e => .error e
        | .ok args =>
          let close := stop + 1 + byteLength arguments
          match hafter : after with
          | ';' :: rest =>
            .ok {
              tree := { TypeTree.ofClass (TypeTree.dotted name) with args := args }
              next := close + 2
              rest := rest
              shorter := by
                have := congrArg List.length (List.takeWhile_append_dropWhile
                  (p := isClassNameChar) (l := cs))
                have := splitClosing_length hclose
                simp only [hrest, List.length_append, List.length_cons] at *
                omega }
          | '.' :: _ => .error (.unsupported .innerClass (close + 1))
          | rest => .error (unexpected (close + 1) rest)
  | '.' :: _ => .error (.unsupported .innerClass stop)
  | rest => .error (unexpected stop rest)

/-- Resolves a type without bound and dimensions. -/
def elementAt (inner : Nat → (cs : List Char) → Resolution cs) (pos : Nat) :
    (cs : List Char) → Resolution cs
  | [] => .error (.unexpectedEnd pos)
  | 'L' :: cs =>
    match classAt inner (pos + 1) cs with
    | .error e => .error e
    | .ok r => .ok ⟨r.tree, r.next, r.rest, Nat.lt_succ_of_lt r.shorter⟩
  | 'T' :: cs =>
    match variableAt (pos + 1) cs with
    | .error e => .error e
    | .ok r => .ok ⟨r.tree, r.next, r.rest, Nat.lt_succ_of_lt r.shorter⟩
  | 'V' :: _ => .error (.unsupported .voidType pos)
  | c :: cs =>
    match Primitive.ofLetter? c with
    | some p => .ok ⟨.ofPrimitive p, pos + 1, cs, Nat.lt_succ_self _⟩
    | none => .error (unexpected pos (c :: cs))

/-- Resolves array brackets and the type after them. -/
def arrayAt (inner : Nat → (cs : List Char) → Resolution cs) (bound : Bound) (pos : Nat)
    (cs : List Char) : Resolution cs :=
  let dims := (cs.takeWhile (· = '[')).length
  if 255 < dims then .error (.tooManyDimensions (pos + 255))
  else
    match elementAt inner (pos + dims) (cs.dropWhile (· = '[')) with
    | .error e => .error e
    | .ok r =>
      .ok {
        tree := { r.tree with dims := UInt8.ofNat dims, bound := bound }
        next := r.next
        rest := r.rest
        shorter := Nat.lt_of_lt_of_le r.shorter (List.dropWhile_sublist _).length_le }

/-- Resolves one type of an input that may nest `levels - 1` argument lists. -/
def typeAt : (levels : Nat) → (pos : Nat) → (cs : List Char) → Resolution cs
  | 0, _, _ => .error .tooDeep
  | _ + 1, pos, [] => .error (.unexpectedEnd pos)
  | _ + 1, pos, '*' :: cs => .ok ⟨.anyType, pos + 1, cs, Nat.lt_succ_self _⟩
  | levels + 1, pos, '+' :: cs =>
    match arrayAt (typeAt levels) .upper (pos + 1) cs with
    | .error e => .error e
    | .ok r => .ok ⟨r.tree, r.next, r.rest, Nat.lt_succ_of_lt r.shorter⟩
  | levels + 1, pos, '-' :: cs =>
    match arrayAt (typeAt levels) .lower (pos + 1) cs with
    | .error e => .error e
    | .ok r => .ok ⟨r.tree, r.next, r.rest, Nat.lt_succ_of_lt r.shorter⟩
  | levels + 1, pos, cs => arrayAt (typeAt levels) .exact pos cs

def outermost : (pos : Nat) → (cs : List Char) → Resolution cs := typeAt (maxDepth + 1)

/-- Resolves a concatenation of types, of which there is at least one. -/
def parseTypes (s : String) : Except SignatureError (List TypeTree) :=
  if s.isEmpty then .error .empty else typesIn outermost 0 [] s.toList

/-- Resolves a signature that denotes exactly one type. -/
def parseType (s : String) : Except SignatureError TypeTree :=
  match parseTypes s with
  | .error e => .error e
  | .ok [t] => .ok t
  | .ok ts => .error (.count 1 ts.length)

end Signature

/-- The parameters and the result of a method; no result stands for `void`. -/
structure MethodType where
  params : List TypeTree
  result : Option TypeTree
  deriving DecidableEq

namespace MethodType

def arity (m : MethodType) : Nat := m.params.length

def signatureChars (m : MethodType) : List Char :=
  '(' :: TypeTree.signatureListChars m.params ++ ')' ::
    match m.result with
    | some t => t.signatureChars
    | none => ['V']

/-- The signature of a method: its parameters in parentheses, then its result. -/
def signature (m : MethodType) : String := String.ofList m.signatureChars

/-- Resolves the result of a method and checks that nothing but a throws clause follows it. -/
def resultAt (params : List TypeTree) (pos : Nat) (cs : List Char) :
    Except SignatureError MethodType :=
  let finish (result : Option TypeTree) (pos : Nat) (rest : List Char) :=
    match rest with
    | [] | '^' :: _ => .ok ⟨params, result⟩
    | rest => .error (Signature.unexpected pos rest)
  match cs with
  | 'V' :: rest => finish none (pos + 1) rest
  | cs =>
    match Signature.outermost pos cs with
    | .error e => .error e
    | .ok r => finish (some r.tree) r.next r.rest

/-- Resolves a method signature. The parameter list ends at the first closing parenthesis. -/
def parse (s : String) : Except SignatureError MethodType :=
  match s.toList with
  | [] => .error .empty
  | '<' :: _ => .error (.unsupported .methodTypeParameters 0)
  | '(' :: cs =>
    let inside := cs.takeWhile (· ≠ ')')
    match cs.dropWhile (· ≠ ')') with
    | [] => .error (.unexpectedEnd (1 + Signature.byteLength cs))
    | _ :: rest =>
      match Signature.typesIn Signature.outermost 1 [] inside with
      | .error e => .error e
      | .ok params => resultAt params (2 + Signature.byteLength inside) rest
  | cs => .error (Signature.unexpected 0 cs)

end MethodType

end EntityForge
