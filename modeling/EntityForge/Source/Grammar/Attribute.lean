import EntityForge.Source.Grammar.Path

/-!
Attributes: a path in brackets behind a hash, perhaps with a group or a value. An attribute of what
encloses it has an exclamation mark in front.
-/

namespace EntityForge.Grammar

/-- Takes what an attribute says. Its value is a literal or an expression, but no attribute. -/
def meaning (inner : Phrases) : Rule (List Token) := do
  let path ← if ← ahead (isWordAhead "unsafe") then anyWord else plainPath
  if ← sees "=" then
    let sign ← operator "="
    require !(← ahead fun tokens => beginsWith "#" tokens && isGroupAhead .bracket (tokens.drop 1))
    return path ++ sign ++ (← inner.value)
  if ← atEnd then return path
  return path ++ (← anyGroup).2

def attributes (inner : Phrases) : Rule (List Token) :=
  grow (fun taken => do
    if ← sees "#" then
      return some (taken ++ (← operator "#") ++ (← grouped .bracket (meaning inner)))
    else return none) []

def enclosingAttributes (inner : Phrases) : Rule (List Token) :=
  grow (fun taken => do
    if (← sees "#") && (← ahead fun tokens => beginsWith "!" (tokens.drop 1)) then
      let signs := (← operator "#") ++ (← operator "!")
      return some (taken ++ signs ++ (← grouped .bracket (meaning inner)))
    else return none) []

end EntityForge.Grammar
