import SchemaTypes.Yaml.Property
import SchemaTypes.Yaml.ScalarText.Block
import SchemaTypes.Yaml.ScalarText.Plain
import SchemaTypes.Yaml.ScalarText.Quoted

/-!
# The tokens of a text

Tokens are read from left to right with two things in mind. One is the indentation of the open
block collections: a token to the left of it closes them. The other is that a key shows itself
only at the colon behind it, so every place where a key may have begun is remembered until the
line ends or 1024 characters are past; the colon then puts the sign of the key, and perhaps the
start of a mapping, in front of what was read since.

Inside brackets indentation means nothing. Each pair of brackets has its own place for a key, and
so has the text around all of them.

A level is the least column at which the content of a block collection may stand; outside of all
collections it is zero.

A token can be handed on when no possible key is left in front of it that could still put a sign
there. So when a text turns out to be at fault, the tokens before the fault are those that could
have been handed on until the reading began that met it, and not all that have been read.
-/

namespace SchemaTypes
namespace Yaml
namespace TokenStream

/-- A place where a key may have begun: the number of tokens in front of it, its line, column and
index, and whether it has to turn out to be one. -/
structure PossibleKey where
  place : Nat
  line : Nat
  column : Nat
  index : Nat
  required : Bool

/-- How far a text has been read. -/
structure State where
  cursor : Cursor
  /-- The tokens, the last one first. -/
  tokens : List Token
  level : Nat
  /-- The levels of the collections around, the innermost first. -/
  outerLevels : List Nat
  /-- Where the innermost brackets, or the text outside of any, may have a key. -/
  key : Option PossibleKey
  /-- The same for what is around the innermost brackets, one for each pair. -/
  outerKeys : List (Option PossibleKey)
  /-- Whether a key may begin here. -/
  keyAllowed : Bool
  /-- How many tokens could be handed on before the last one was read. -/
  ready : Nat

/-- The state at the beginning of a source. -/
def State.start (source : Source) : State where
  cursor := .start source
  tokens := []
  level := 0
  outerLevels := []
  key := none
  outerKeys := []
  keyAllowed := true
  ready := 0

/-- A step of reading. -/
abbrev Reader := StateT State (Except Fault)

/-- Ends the reading. -/
def malformed {α : Type} : Reader α :=
  throw .malformed

/-- Reads at the cursor. -/
def scan {α : Type} (reading : Scan α) : Reader α := do
  let state ← get
  let (result, cursor) ← reading.run state.cursor
  set { state with cursor }
  return result

/-- Whether there are brackets around. -/
def State.inFlow (state : State) : Bool :=
  !state.outerKeys.isEmpty

/-- Adds a token. -/
def emit (token : Token) : Reader Unit :=
  modify fun state => { state with tokens := token :: state.tokens }

/-- Adds a token of one character or more, and moves behind it. -/
def emitSign (token : Token) (length : Nat) : Reader Unit := do
  scan (Scan.skip length)
  emit token

/-- Says whether a key may begin at the next token. -/
def allowKey (allowed : Bool) : Reader Unit :=
  modify fun state => { state with keyAllowed := allowed }

/-- Puts a token behind the first `place` tokens. -/
def State.insert (state : State) (place : Nat) (token : Token) : State :=
  let later := state.tokens.length - place
  { state with tokens := state.tokens.take later ++ token :: state.tokens.drop later }

/-! ## Places of keys -/

/-- A possible key that is still one; an error if it is not and had to be one. -/
def PossibleKey.keep? (cursor : Cursor) : Option PossibleKey → Except Fault (Option PossibleKey)
  | none => .ok none
  | some key =>
    if key.line ≠ cursor.line ∨ key.index + 1024 < cursor.index then
      if key.required then .error .malformed else .ok none
    else .ok (some key)

/-- The state without the possible keys that the text has left behind. -/
def State.dropStaleKeys (state : State) : Except Fault State := do
  let key ← PossibleKey.keep? state.cursor state.key
  let outerKeys ← state.outerKeys.mapM (PossibleKey.keep? state.cursor)
  return { state with key, outerKeys }

/-- Forgets the innermost possible key. -/
def removeKey : Reader Unit := do
  let state ← get
  if state.key.any (·.required) then malformed
  else set { state with key := none }

/-- Remembers this place as a possible key. -/
def saveKey : Reader Unit := do
  let state ← get
  if state.keyAllowed then do
    removeKey
    let cursor := state.cursor
    let required := !state.inFlow && state.level == cursor.column + 1
    modify fun state =>
      { state with
        key := some ⟨state.tokens.length, cursor.line, cursor.column, cursor.index, required⟩ }

/-! ## Indentation -/

/-- The collections that stay open at a column: the level, the levels around it, and how many are
closed. -/
def openLevels (column : Nat) : Nat → List Nat → Nat × List Nat × Nat
  | level, [] => (level, [], 0)
  | level, outer :: rest =>
    if column + 1 < level then
      let (level, levels, closed) := openLevels column outer rest
      (level, levels, closed + 1)
    else (level, outer :: rest, 0)

/-- Closes the block collections that are indented more than a column. -/
def closeLevels (column : Nat) : Reader Unit :=
  modify fun state =>
    if state.inFlow then state
    else
      let (level, outerLevels, closed) := openLevels column state.level state.outerLevels
      { state with
        level, outerLevels, tokens := List.replicate closed .blockEnd ++ state.tokens }

/-- Closes all block collections. -/
def closeAllLevels : Reader Unit :=
  modify fun state =>
    if state.inFlow then state
    else
      { state with
        level := 0, outerLevels := [],
        tokens := List.replicate state.outerLevels.length .blockEnd ++ state.tokens }

/-- Opens a block collection at a column, with a token at the given place, unless one is open
there. -/
def openLevel (column place : Nat) (token : Token) : Reader Unit :=
  modify fun state =>
    if state.level ≤ column then
      { state.insert place token with
        level := column + 1, outerLevels := state.level :: state.outerLevels }
    else state

/-! ## Tokens -/

/-- Skips spaces, comments and line breaks. Behind a break outside brackets a key may begin. -/
def skipToToken : Nat → Reader Unit
  | 0 => return ()
  | steps + 1 => do
    scan Scan.skipSpaces
    scan Scan.skipComment
    if ← scan Scan.atBreak then do
      let _ ← scan Scan.takeBreak
      modify fun state => { state with keyAllowed := !state.inFlow || state.keyAllowed }
      skipToToken steps

/-- What ends everything that is open: the end of the stream, a directive, a mark between
documents. -/
def endDocument : Reader Unit := do
  closeAllLevels
  removeKey
  allowKey false

/-- An opening bracket. -/
def openFlow (token : Token) : Reader Unit := do
  saveKey
  modify fun state => { state with outerKeys := state.key :: state.outerKeys, key := none }
  allowKey true
  emitSign token 1

/-- A closing bracket. -/
def closeFlow (token : Token) : Reader Unit := do
  removeKey
  let state ← get
  match state.outerKeys with
  | [] => malformed
  | key :: outerKeys => set { state with key, outerKeys }
  allowKey false
  emitSign token 1

/-- Outside brackets, a sign that belongs to a block collection opens one, if a key may begin
here. -/
def openAtSign (token : Token) : Reader Unit := do
  let state ← get
  if !state.inFlow then
    if !state.keyAllowed then malformed
    else openLevel state.cursor.column state.tokens.length token

/-- The hyphen of a sequence entry. -/
def blockEntry : Reader Unit := do
  openAtSign .blockSequenceStart
  allowKey true
  removeKey
  emitSign .blockEntry 1

/-- The question mark of a key. -/
def explicitKey : Reader Unit := do
  openAtSign .blockMappingStart
  allowKey (!(← get).inFlow)
  removeKey
  emitSign .key 1

/-- The colon of a value. If a key has begun in front of it, that key gets its sign now. -/
def value : Reader Unit := do
  let state ← get
  match state.key with
  | some key =>
    set { state.insert key.place .key with key := none }
    if !state.inFlow then openLevel key.column key.place .blockMappingStart
    allowKey false
  | none =>
    openAtSign .blockMappingStart
    allowKey (!state.inFlow)
    removeKey
  emitSign .value 1

/-- The comma between the items of a collection in brackets. -/
def flowEntry : Reader Unit := do
  allowKey true
  removeKey
  emitSign .flowEntry 1

/-- An anchor, an alias or a tag, or a scalar in quotes. -/
def content (reading : Scan Token) : Reader Unit := do
  saveKey
  allowKey false
  emit (← scan reading)

/-- A directive line. -/
def directiveLine : Reader Unit := do
  endDocument
  emit (← scan directive)

/-- A block scalar. -/
def blockScalar (folded : Bool) : Reader Unit := do
  allowKey true
  removeKey
  let chars ← scan (Block.read folded (← get).level)
  emit (.scalar (Text.points chars) false)

/-- A plain scalar. -/
def plainScalar : Reader Unit := do
  saveKey
  let state ← get
  let reading ← scan (Plain.read state.inFlow state.level)
  allowKey reading.newLine
  emit (.scalar (Text.points reading.text) true)

/-- A mark between documents. -/
def mark (token : Token) : Reader Unit := do
  endDocument
  emitSign token 3

/-- Whether a mark between documents is here, in front of anything else on its line. -/
def atLineMark : Reader Bool := do
  if (← get).cursor.column == 0 then scan Scan.atMark else return false

/-- Whether white space stands behind the character here. -/
def standsAlone : Reader Bool := do
  return isGap (← scan (Scan.peekAt 1))

/-- A hyphen: a mark between documents, an entry, or the beginning of a plain scalar. -/
def hyphen : Reader Unit := do
  if ← atLineMark then mark .documentStart
  else if ← standsAlone then blockEntry
  else plainScalar

/-- A question mark or a colon: a sign inside brackets and in front of white space, and otherwise
the beginning of a plain scalar. -/
def signOrScalar (sign : Reader Unit) : Reader Unit := do
  if (← get).inFlow then sign
  else if ← standsAlone then sign
  else plainScalar

/-- Reads the token here, of which the first character is given. -/
def token (c : Char) : Reader Unit := do
  let state ← get
  if c == '%' && state.cursor.column == 0 then directiveLine
  else if c == '-' then hyphen
  else if c == '.' then
    if ← atLineMark then mark .documentEnd else plainScalar
  else if c == '[' then openFlow .flowSequenceStart
  else if c == '\x7b' then openFlow .flowMappingStart
  else if c == ']' then closeFlow .flowSequenceEnd
  else if c == '\x7d' then closeFlow .flowMappingEnd
  else if c == ',' then flowEntry
  else if c == '?' then signOrScalar explicitKey
  else if c == ':' then signOrScalar value
  else if c == '*' then content (Token.alias <$> anchorName)
  else if c == '&' then content (Token.anchor <$> anchorName)
  else if c == '!' then content tag
  else if c == '|' && !state.inFlow then blockScalar false
  else if c == '>' && !state.inFlow then blockScalar true
  else if c == '\'' || c == '"' then content ((Token.scalar · false) <$> Quoted.read c)
  else if ← scan (Plain.begins state.inFlow) then plainScalar
  else malformed

/-- How many tokens can be handed on now. -/
def State.readyCount (state : State) : Nat :=
  (state.key :: state.outerKeys).foldl
    (fun count key => min count ((key.map (·.place)).getD count)) state.tokens.length

/-- Drops the possible keys that the text has left behind. -/
def dropStaleKeys : Reader Unit := do
  set (← (← get).dropStaleKeys)

/-- Reads the next token with what it closes, and says whether there are more. -/
def advance : Reader Bool := do
  skipToToken (← scan Scan.steps)
  dropStaleKeys
  closeLevels (← get).cursor.column
  match ← scan Scan.peek with
  | none => do
    endDocument
    emit .streamEnd
    return false
  | some c => do
    token c
    return true

/-- Reads tokens up to the end of the text or a fault; every one but the last takes a character at
least. -/
def run : Nat → State → Tokens
  | 0, state => ⟨state.tokens.reverse, none⟩
  | steps + 1, state =>
    match state.dropStaleKeys with
    | .error fault => ⟨state.tokens.reverse.take state.ready, some fault⟩
    | .ok kept =>
      match advance.run kept with
      | .error fault => ⟨kept.tokens.reverse.take kept.readyCount, some fault⟩
      | .ok (false, last) => ⟨last.tokens.reverse, none⟩
      | .ok (true, next) => run steps { next with ready := kept.readyCount }

/-- The state behind a byte order mark, which belongs to no token. -/
def skipByteOrderMark (state : State) : Except Fault State := do
  let (_, state) ← (do
    scan (Scan.demand 0)
    if ← scan (Scan.sees '\ufeff') then scan Scan.next : Reader Unit).run state
  return state

end TokenStream

/-- The tokens of a source. -/
def tokens (source : Source) : Tokens :=
  match TokenStream.skipByteOrderMark (.start source) with
  | .error fault => ⟨[], some fault⟩
  | .ok state => TokenStream.run (source.chars.length + 1) state

end Yaml
end SchemaTypes
