import ClusterVault.Json.Number
import ClusterVault.Json.Text

/-!
# Values in JSON

## Main definitions

- `Json.text`, `Json.integer`: a value of a wanted type
- `Json.items`, `Json.members`: the items of a list and the members of an object
- `Json.skip`: a value of any type
- `Json.read`: a whole document
-/

namespace ClusterVault.Json

/-- Passes over one of the three names of JSON. -/
def name (text : String) : Reader Unit := expect (Bytes.ofString text)

/-- Refuses what comes next, which is not what was wanted. Only its beginning has to be JSON. -/
def refuse {α : Type} : Reader α := do
  match ← peek? with
  | none => malformed
  | some b =>
    if b = 0x6e then name "null"
    else if b = 0x74 then name "true"
    else if b = 0x66 then name "false"
    else if beginsNumber b then let _ ← finiteNumber
    else if b = 0x22 then let _ ← quoted
    else if b = 0x5b || b = 0x7b then pure ()
    else malformed
    mismatched

/-- A text. -/
def text : Reader String := do
  if (← peekToken?) = some 0x22 then quoted else refuse

/-- A whole number of 64 bits. -/
def integer : Reader Int := do
  if (← peekToken?).any beginsNumber then
    match (← finiteNumber).integer? with
    | some n => pure n
    | none => mismatched
  else refuse

/-- Whether another item of a list comes next, which may be its first. The comma in front of it is
    passed over, the bracket behind the last one is not. -/
def hasItem (first : Bool) : Reader Bool := do
  let b ← peekToken?
  if b = some 0x5d then return false
  else if first then return true
  else if b = some 0x2c then
    pass
    if (← peekToken?) = some 0x5d then malformed else return true
  else malformed

/-- Passes over the bracket that closes a list. -/
def endList : Reader Unit := do
  if (← peekToken?) = some 0x5d then pass else malformed

/-- Reads the items of a list into a state, at most as many as the first argument says. -/
def itemsWithin {σ : Type} (step : σ → Reader σ) : Nat → Bool → σ → Reader σ
  | 0, _, _ => malformed
  | count + 1, first, state => do
    if ← hasItem first then itemsWithin step count false (← step state)
    else
      endList
      return state

/-- Reads the items of a list, whose opening bracket is next, into a state. -/
def items {σ : Type} (step : σ → Reader σ) (state : σ) : Reader σ := do
  pass
  itemsWithin step ((← remaining) + 1) true state

/-- Whether another member of an object comes next, which may be its first. The comma in front of it
    is passed over, the brace behind the last one is not. -/
def hasMember (first : Bool) : Reader Bool := do
  let b ← peekToken?
  if b = some 0x7d then return false
  else if first then if b = some 0x22 then return true else malformed
  else if b = some 0x2c then
    pass
    if (← peekToken?) = some 0x22 then return true else malformed
  else malformed

/-- Passes over the colon behind the name of a member. -/
def colon : Reader Unit := do
  if (← peekToken?) = some 0x3a then pass else malformed

/-- Reads the members of an object into a state, at most as many as the first argument says. -/
def membersWithin {κ σ : Type} (key : Reader κ) (step : κ → σ → Reader σ) :
    Nat → Bool → σ → Reader σ
  | 0, _, _ => malformed
  | count + 1, first, state => do
    if ← hasMember first then
      let k ← key
      membersWithin key step count false (← step k state)
    else
      pass
      return state

/-- Reads the members of an object, whose opening brace is next, into a state. What reads the value
    of a member also passes over the colon in front of it. -/
def members {κ σ : Type} (key : Reader κ) (step : κ → σ → Reader σ) (state : σ) : Reader σ := do
  pass
  membersWithin key step ((← remaining) + 1) true state

/-- Passes over a value of any type, nested at most as deep as the first argument says. Texts need
    not be text, and numbers may have any size. -/
def skipWithin : Nat → Reader Unit
  | 0 => malformed
  | depth + 1 => do
    match ← peekToken? with
    | none => malformed
    | some b =>
      if b = 0x6e then name "null"
      else if b = 0x74 then name "true"
      else if b = 0x66 then name "false"
      else if beginsNumber b then let _ ← number
      else if b = 0x22 then let _ ← pieces
      else if b = 0x5b then items (fun _ => skipWithin depth) ()
      else if b = 0x7b then
        members pieces (fun _ _ => do
          colon
          skipWithin depth) ()
      else malformed

/-- Passes over a value of any type. -/
def skip : Reader Unit := do skipWithin ((← remaining) + 1)

/-- Reads a whole document. -/
def read {α : Type} (reader : Reader α) (document : Bytes) : Except Fault α := do
  let (a, rest) ← reader.run document
  if rest.all isBlank then return a else throw .malformed

end ClusterVault.Json
