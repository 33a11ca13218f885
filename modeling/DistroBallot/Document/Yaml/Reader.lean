import DistroBallot.Document.Yaml.Node
import DistroBallot.Document.Yaml.Scalar

/-!
# Reading YAML text

A text holds one document. Outside brackets its lists and maps are told by columns: a hyphen or a
key opens one, and whatever stands further left closes it. In brackets they are told by signs. The
reader goes over the text once with the open lists and maps on a stack, the innermost first
(`Frame`), and builds the tree of the document; its value is worked out last.

A key stands on one line with the colon behind it. Lists and maps in brackets can stand there too,
but have no value as keys. There are no anchors, tags, directives, block
scalars or keys marked by a question mark; a text with one of them is malformed.
-/

namespace DistroBallot
namespace Yaml

/-! ## Open lists and maps -/

/-- Where something starts that may turn out to be a key: the text from there on, the column, and
whether a key may stand there. -/
structure Opening where
  text : Text
  column : Nat
  keyAllowed : Bool
deriving Repr

/-- An open list or map with what it holds so far, the last first. A block stands at a column; its
list may have an item to come and its map a key whose value is to come. In brackets, which start at
`opening`, a map may have such a key, and a list too, as the start of a map of one entry; `full` is
whether the next thing has to be a comma or the closing bracket. -/
inductive Frame where
  | blockList (column : Nat) (items : List Node) (awaiting : Bool)
  | blockMap (column : Nat) (entries : List (Node × Node)) (key : Option Node)
  | flowList (opening : Opening) (items : List Node) (key : Option Node) (full : Bool)
  | flowMap (opening : Opening) (entries : List (Node × Node)) (key : Option Node) (full : Bool)
deriving Repr

namespace Frame

/-- The column of a block. -/
def column? : Frame → Option Nat
  | .blockList column .. => some column
  | .blockMap column .. => some column
  | _ => none

/-- Puts a node where one is to come. -/
def put : Frame → Node → Except Error Frame
  | .blockList column items true, n => .ok (.blockList column (n :: items) false)
  | .blockMap column entries (some k), n => .ok (.blockMap column ((k, n) :: entries) none)
  | .flowList o items none false, n => .ok (.flowList o (n :: items) none true)
  | .flowList o items (some k) false, n => .ok (.flowList o (.map [(k, n)] :: items) none true)
  | .flowMap o entries none false, n => .ok (.flowMap o ((n, .empty) :: entries) none true)
  | .flowMap o entries (some k) false, n => .ok (.flowMap o ((k, n) :: entries) none true)
  | _, _ => .error .malformed

/-- The frame in which nothing is to come: what is left out is put. -/
def completed : Frame → Frame
  | .blockList column items true => .blockList column (.empty :: items) false
  | .blockMap column entries (some k) => .blockMap column ((k, .empty) :: entries) none
  | .flowList o items (some k) full => .flowList o (.map [(k, .empty)] :: items) none full
  | .flowMap o entries (some k) full => .flowMap o ((k, .empty) :: entries) none full
  | f => f

/-- The node of a frame that is closed. -/
def node (f : Frame) : Node :=
  match f.completed with
  | .blockList _ items _ => .list items.reverse
  | .blockMap _ entries _ => .map entries.reverse
  | .flowList _ items _ _ => .list items.reverse
  | .flowMap _ entries _ _ => .map entries.reverse

/-- Takes a key in brackets. -/
def takeKey : Frame → Node → Except Error Frame
  | .flowList o items none false, k => .ok (.flowList o items (some k) false)
  | .flowMap o entries none false, k => .ok (.flowMap o entries (some k) false)
  | _, _ => .error .malformed

/-- Takes a comma in brackets. -/
def takeComma : Frame → Except Error Frame
  | .flowList o items none true => .ok (.flowList o items none false)
  | .flowList o items (some k) false => .ok (.flowList o (.map [(k, .empty)] :: items) none false)
  | .flowMap o entries none true => .ok (.flowMap o entries none false)
  | .flowMap o entries (some k) false => .ok (.flowMap o ((k, .empty) :: entries) none false)
  | _ => .error .malformed

end Frame

/-! ## The reader -/

/-- Where a text stands with its document: ahead of it, in it, or behind it. -/
inductive Stage where
  | ahead
  | inside
  | behind
deriving DecidableEq, Repr

/-- The reader: what is left of the text and the column of it, whether a key may stand there, the
open lists and maps, the finished node at the top, and where it stands with the document. -/
structure Reader where
  rest : Text
  column : Nat
  keyAllowed : Bool
  frames : List Frame
  root : Option Node
  stage : Stage
deriving Repr

namespace Reader

/-- Before the first character. -/
def start (t : Text) : Reader := ⟨t, 0, true, [], none, .ahead⟩

/-- Whether the reader is in brackets. -/
def inFlow (r : Reader) : Bool :=
  match r.frames with
  | f :: _ => f.column?.isNone
  | [] => false

/-- Puts a finished node at its place, in the innermost frame or at the top. -/
def place (r : Reader) (n : Node) : Except Error Reader :=
  match r.frames with
  | f :: outer => (f.put n).map fun g => { r with frames := g :: outer }
  | [] =>
    match r.root with
    | none => .ok { r with root := some n }
    | some _ => .error .malformed

/-- Puts a carried node, if there is one, and closes the frames from the innermost outward while
`closes` holds. -/
def closeWhile (closes : Frame → Bool) : List Frame → Option Node →
    Except Error (List Frame × Option Node)
  | [], carried => .ok ([], carried)
  | f :: outer, carried => do
    let g ← match carried with
      | none => .ok f
      | some n => f.put n
    if closes g then closeWhile closes outer (some g.node) else .ok (g :: outer, none)

/-- Closes frames; what is carried out of the last of them is put at the top. -/
def close (closes : Frame → Bool) (r : Reader) : Except Error Reader := do
  let (frames, carried) ← closeWhile closes r.frames none
  let r := { r with frames }
  match carried with
  | none => return r
  | some n => r.place n

/-- Closes the blocks that stand to the right of a column. -/
def closeRightOf (column : Nat) (r : Reader) : Except Error Reader :=
  r.close fun f => f.column?.any (column < ·)

/-- Closes everything; an open bracket cannot be closed so. -/
def closeAll (r : Reader) : Except Error Reader := do
  let r ← r.close fun f => f.column?.isSome
  if r.frames.isEmpty then return r else .error .malformed

/-- Goes on behind what was read. -/
def moveTo (rest : Text) (column : Nat) (keyAllowed : Bool) (r : Reader) : Reader :=
  { r with rest, column, keyAllowed }

/-- A hyphen that starts an item of a block list. A list may stand at the column of the key whose
value it is. -/
def takeHyphen (r : Reader) : Except Error (List Frame) :=
  match r.frames with
  | .blockList column items awaiting :: outer =>
    if column == r.column then
      .ok (.blockList column (if awaiting then .empty :: items else items) true :: outer)
    else .ok (.blockList r.column [] true :: r.frames)
  | .blockMap column entries key :: outer =>
    if column == r.column && key.isNone then .error .malformed
    else .ok (.blockList r.column [] true :: .blockMap column entries key :: outer)
  | frames => .ok (.blockList r.column [] true :: frames)

/-- A key at a column starts an entry of the map there, or opens a map. It closes a list at the
column, which has to be the value of a key of that map. -/
def takeBlockKey (column : Nat) (key : Node) : List Frame → Except Error (List Frame)
  | .blockList c items awaiting :: outer =>
    if c == column then
      match outer with
      | .blockMap d entries (some k) :: outermost =>
        if d == column then
          let value := (Frame.blockList c items awaiting).node
          .ok (.blockMap d ((k, value) :: entries) (some key) :: outermost)
        else .error .malformed
      | _ => .error .malformed
    else .ok (.blockMap column [] (some key) :: .blockList c items awaiting :: outer)
  | .blockMap c entries waiting :: outer =>
    if c == column then
      match (Frame.blockMap c entries waiting).completed with
      | .blockMap _ done _ => .ok (.blockMap c done (some key) :: outer)
      | _ => .error .malformed
    else .ok (.blockMap column [] (some key) :: .blockMap c entries waiting :: outer)
  | frames => .ok (.blockMap column [] (some key) :: frames)

/-- A key at a column. -/
def takeKey (column : Nat) (key : Node) (r : Reader) : Except Error Reader :=
  if r.inFlow then
    match r.frames with
    | f :: outer => (f.takeKey key).map fun g => { r with frames := g :: outer }
    | [] => .error .malformed
  else (takeBlockKey column key r.frames).map fun frames => { r with frames }

/-- Where the reader stands, as the start of something. -/
def opening (r : Reader) : Opening := ⟨r.rest, r.column, r.keyAllowed⟩

/-- Whether the innermost block stands at this column, where only a key or a hyphen may stand. -/
def blockStandsAt (column : Nat) (r : Reader) : Bool :=
  match r.frames with
  | f :: _ => f.column? == some column
  | [] => false

/-- The greatest length of a key, up to its colon. -/
def maxKeyLength : Nat := 1024

/-- What follows the colon, with its column, if what starts at `start` and was read to where the
reader stands is a key. -/
def afterColon? (start : Opening) (crossed : Bool) (r : Reader) : Option (Text × Nat) :=
  let spaces := r.rest.takeWhile (· == ' ')
  match r.rest.dropWhile (· == ' ') with
  | ':' :: rest =>
    if start.keyAllowed && !crossed && (r.inFlow || atGap rest) &&
        decide (start.text.length ≤ maxKeyLength + rest.length + 1) then
      some (rest, r.column + spaces.length + 1)
    else none
  | _ => none

/-- Takes a node that starts at `start` and was read to where the reader stands, as a key or as a
value; `crossed` is whether a line end was crossed in it. -/
def takeNode (start : Opening) (crossed : Bool) (node : Node) (r : Reader) :
    Except Error Reader :=
  match r.afterColon? start crossed with
  | some (rest, column) => (r.takeKey start.column node).map (moveTo rest column false)
  | none => if r.blockStandsAt start.column then .error .malformed else r.place node

/-- Takes a scalar. -/
def takeScalar (node : Node) (s : Scanned) (r : Reader) : Except Error Reader :=
  (moveTo s.rest s.column s.atLineStart r).takeNode r.opening s.crossed node

/-- Takes a bracket that opens the frame. -/
def takeOpening (frame : Opening → Frame) (rest : Text) (r : Reader) : Except Error Reader :=
  .ok { moveTo rest (r.column + 1) true r with frames := frame r.opening :: r.frames }

/-- Takes the bracket that closes the innermost frame, which starts at `start`. -/
def closeBracket (start : Opening) (frame : Frame) (outer : List Frame) (rest : Text)
    (r : Reader) : Except Error Reader :=
  let within := start.text.take (start.text.length - rest.length)
  (moveTo rest (r.column + 1) false { r with frames := outer }).takeNode start
    (within.any isBreak) frame.node

/-- Takes a bracket that closes a map or a list. -/
def takeClosing (isMap : Bool) (rest : Text) (r : Reader) : Except Error Reader :=
  match isMap, r.frames with
  | false, .flowList start items key full :: outer =>
    r.closeBracket start (.flowList start items key full) outer rest
  | true, .flowMap start entries key full :: outer =>
    r.closeBracket start (.flowMap start entries key full) outer rest
  | _, _ => .error .malformed

/-- Takes a comma. -/
def takeComma (rest : Text) (r : Reader) : Except Error Reader :=
  match r.frames with
  | f :: outer => f.takeComma.map fun g =>
    { moveTo rest (r.column + 1) true r with frames := g :: outer }
  | [] => .error .malformed

/-- Takes the mark in front of the document or the mark behind it, of three characters. -/
def takeMark (isFirst : Bool) (r : Reader) : Except Error Reader := do
  let r ← r.closeAll
  match isFirst, r.stage with
  | true, .ahead => return { moveTo (r.rest.drop 3) 3 false r with stage := .inside }
  | false, .inside => return { moveTo (r.rest.drop 3) 3 false r with stage := .behind }
  | false, .behind => return moveTo (r.rest.drop 3) 3 false r
  | _, _ => .error .malformed

/-- The characters that start no scalar without quotes. -/
def startsNoPlain (c : Char) : Bool :=
  isGap c || isFlowSign c || ['#', '&', '*', '!', '|', '>', '%', '@', '\x60'].contains c

/-- The column where the lines of a plain scalar have to stand. -/
def leastColumn (r : Reader) : Nat :=
  match r.frames with
  | f :: _ => (f.column?.map (· + 1)).getD 0
  | [] => 0

/-- Takes what starts with the character `c`, inside the document. -/
def takeContent (c : Char) (rest : Text) (r : Reader) : Except Error Reader :=
  if c == '[' then r.takeOpening (.flowList · [] none false) rest
  else if c == '\x7b' then r.takeOpening (.flowMap · [] none false) rest
  else if c == ']' then r.takeClosing false rest
  else if c == '\x7d' then r.takeClosing true rest
  else if c == ',' then r.takeComma rest
  else if c == '-' && atGap rest then
    if r.inFlow || !r.keyAllowed then .error .malformed
    else r.takeHyphen.map fun frames => { moveTo rest (r.column + 1) true r with frames }
  else if (c == ':' || c == '?') && (r.inFlow || atGap rest) then .error .malformed
  else if c == Text.doubleQuote || c == Text.singleQuote then
    match quoted c (r.column + 1) rest with
    | .ok s => r.takeScalar (.quoted s.text) s
    | .error e => .error e
  else if startsNoPlain c then .error .malformed
  else
    let s := plain r.inFlow r.leastColumn r.column (c :: rest)
    r.takeScalar (.plain s.text) s

/-- Takes what starts with the character `c`: a space, a comment, a line end, a mark, or content of
the document. -/
def take (c : Char) (rest : Text) (r : Reader) : Except Error Reader :=
  if c == ' ' then .ok (moveTo rest (r.column + 1) r.keyAllowed r)
  else if c == '#' then .ok { r with rest := rest.dropWhile (fun d => !isBreak d) }
  else if isBreak c then .ok (moveTo rest 0 (r.keyAllowed || !r.inFlow) r)
  else if r.column == 0 && atMark (c :: rest) then r.takeMark (c == '-')
  else if r.stage = .behind then .error .malformed
  else do
    let r ← if r.inFlow then .ok r else r.closeRightOf r.column
    takeContent c rest { r with stage := .inside }

/-- Takes up to `fuel` times what comes next; each time at least one character is used. -/
def takeAll : Nat → Reader → Except Error Reader
  | 0, r => .ok r
  | fuel + 1, r =>
    match r.rest with
    | [] => .ok r
    | c :: rest => r.take c rest >>= takeAll fuel

end Reader

/-- The characters that a text may hold. -/
def isAllowed (c : Char) : Bool :=
  let n := c.toNat
  n == 9 || n == 10 || n == 13 || (0x20 ≤ n && n ≤ 0x7E) || n == 0x85 || (0xA0 ≤ n && n ≤ 0xD7FF) ||
    (0xE000 ≤ n && n ≤ 0xFFFD) || 0x10000 ≤ n

/-- The text without the mark of byte order in front of it. -/
def withoutOrderMark (t : Text) : Text :=
  if t.head?.any (fun c => c.toNat == 0xFEFF) then t.drop 1 else t

/-- The tree of a text; a text without content has an empty one. -/
def readNode (t : Text) : Except Error Node :=
  if !t.all isAllowed then .error .malformed
  else do
    let r ← (Reader.start (withoutOrderMark t)).takeAll t.length
    let r ← r.closeAll
    return r.root.getD .empty

/-- The value that a text writes. -/
def read (t : Text) : Except Error Value := do
  let n ← readNode t
  n.value.mapError Flaw.error

end Yaml
end DistroBallot
