import Mathlib.Data.List.Basic
import Wlcodex.Relay.Vocabulary

namespace Wlcodex.Telegram

open Wlcodex.Relay (isSpace)

/-! The chunker that cuts the output of a run into messages. -/

abbrev Text := List Char

structure ChunkPolicy where
  minChars : Nat := 900
  maxChars : Nat := 3200
  finalMaxChars : Nat := 3900

def lstrip (text : Text) : Text := text.dropWhile isSpace

def rstrip (text : Text) : Text := (text.reverse.dropWhile isSpace).reverse

def fence : Text := List.replicate 3 (Char.ofNat 96)

def rfind (needle text : Text) : Option Nat :=
  (List.range text.length).reverse.find? fun index => needle.isPrefixOf (text.drop index)

def positive (position : Option Nat) : Option Nat := position.filter (0 < ·)

def contains (needle text : Text) : Bool :=
  (List.range text.length).any fun index => needle.isPrefixOf (text.drop index)

section Boundaries

-- `str.isdigit` of one letter
variable (isDigit : Char → Bool)

def isNumberedItem (rest : Text) : Bool :=
  rest.head?.any isDigit && contains ['.', ' '] (rest.take 4)

def rfindListBoundary (text : Text) (limit : Nat) : Option Nat :=
  let region := text.take limit
  (positive (rfind ['\n', '-', ' '] region)).or
    ((positive (rfind ['\n', '*', ' '] region)).or
      ((List.range (region.length - 1)).reverse.find? fun index =>
        0 < index && region[index]? = some '\n' && isNumberedItem isDigit (region.drop (index + 1))))

def rfindSentenceBoundary (text : Text) (limit : Nat) : Option Nat :=
  let region := text.take limit
  let punctuations : List Text := [['。'], ['！'], ['？'], ['.', ' '], ['!', ' '], ['?', ' ']]
  punctuations.findSome? fun punctuation =>
    (positive (rfind punctuation region)).map (· + punctuation.length)

def rfindWhitespaceBoundary (text : Text) (limit : Nat) : Option Nat :=
  let region := text.take limit
  (List.range region.length).reverse.find? fun index => 0 < index && region[index]?.any isSpace

structure LinkScan where
  inLabel : Bool := false
  inUrl : Bool := false
  previous : Option Char := none

def LinkScan.next (scan : LinkScan) (letter : Char) : LinkScan :=
  let moved : LinkScan :=
    if letter = '[' && !scan.inLabel && !scan.inUrl then { scan with inLabel := true }
    else if letter = ']' && scan.inLabel then { scan with inLabel := false }
    else if letter = '(' && !scan.inLabel && !scan.inUrl then
      if scan.previous = some ']' then { scan with inUrl := true } else scan
    else if letter = ')' && scan.inUrl then { scan with inUrl := false }
    else scan
  { moved with previous := some letter }

def insideMarkdownLink (text : Text) (position : Nat) : Bool :=
  let scan := (text.take position).foldl LinkScan.next {}
  scan.inLabel || scan.inUrl

/-- The fences that begin before a position; `skip` letters belong to the last one. -/
def fenceCount : Nat → Nat → Text → Nat
  | _, 0, _ => 0
  | _, _ + 1, [] => 0
  | 0, position + 1, letter :: rest =>
      if fence.isPrefixOf (letter :: rest) then fenceCount 2 position rest + 1
      else fenceCount 0 position rest
  | skip + 1, position + 1, _ :: rest => fenceCount skip position rest

def insideCodeFence (text : Text) (position : Nat) : Bool := fenceCount 0 position text % 2 = 1

def isSafeSplit (text : Text) (position : Nat) : Bool :=
  !insideMarkdownLink text position && !insideCodeFence text position

def findSplit (text : Text) (limit : Nat) : Nat :=
  let safeLimit := min limit text.length
  let candidates := [rfind ['\n', '\n'] (text.take safeLimit),
    rfindListBoundary isDigit text safeLimit, rfindSentenceBoundary text safeLimit,
    rfindWhitespaceBoundary text safeLimit]
  (candidates.findSome? fun candidate =>
    (positive candidate).filter fun position => isSafeSplit text position).getD safeLimit

/-- `_open_code_fence_marker`: the rest of the line that opens the last fence. -/
def openCodeFenceMarker (text : Text) (position : Nat) : Text :=
  let start := text.take position
  match rfind fence start with
  | none => fence
  | some index =>
      let marker := rstrip (lstrip ((start.drop index).takeWhile (· ≠ '\n')))
      if fence.isPrefixOf marker then marker else fence

def splitReadableChunk (text : Text) (splitAt : Nat) : Text × Text :=
  let chunk := rstrip (text.take splitAt)
  let remainder := text.drop splitAt
  if insideCodeFence text splitAt then
    -- the chunk never ends in a line break, as it was stripped
    let closed := if chunk = [] then fence else chunk ++ ['\n'] ++ fence
    (closed, openCodeFenceMarker text splitAt ++ ['\n'] ++ remainder.dropWhile (· = '\n'))
  else (chunk, remainder)

def startsMarkdownListItem (text : Text) : Bool :=
  ['-', ' '].isPrefixOf text || ['*', ' '].isPrefixOf text ||
    match (List.range text.length).find? fun index => ['.', ' '].isPrefixOf (text.drop index) with
    | some dot => 0 < dot && dot ≤ 3 && (text.take dot).all isDigit
    | none => false

/-- One round of the loop of `ready_chunks`: a chunk and what remains, or the end with
what is left over. -/
inductive Round where
  | cut (chunk remainder : Text)
  | last (chunk : Text)
  | rest

def round (policy : ChunkPolicy) (force : Bool) (buffer : Text) : Round :=
  let limit := policy.maxChars
  if !force && buffer.length < policy.minChars then .rest
  else if !force && startsMarkdownListItem isDigit buffer &&
      (rfindListBoundary isDigit buffer limit).isNone then .rest
  else
    let splitAt := findSplit isDigit buffer limit
    if buffer.length ≤ splitAt then if force then .last buffer else .rest
    else
      let (chunk, remainder) := splitReadableChunk buffer splitAt
      if chunk = [] then
        if force then .cut (buffer.take limit) (lstrip (buffer.drop limit)) else .rest
      else .cut chunk (lstrip remainder)

/-- `ready_chunks`: the chunks, and the buffer that stays.  A loop that takes more
rounds than it is given has not come to an end. -/
def readyChunksIn (policy : ChunkPolicy) (force : Bool) : Nat → Text → Option (List Text × Text)
  | 0, _ => none
  | _ + 1, [] => some ([], [])
  | rounds + 1, buffer =>
      match round isDigit policy force buffer with
      | .rest => some ([], buffer)
      | .last chunk => some ([chunk], [])
      | .cut chunk remainder =>
          (readyChunksIn policy force rounds remainder).map fun (chunks, rest) => (chunk :: chunks, rest)

def readyChunks (policy : ChunkPolicy) (force : Bool) (buffer : Text) : Option (List Text × Text) :=
  readyChunksIn isDigit policy force (buffer.length + 1) buffer

def ChunkPolicy.final (policy : ChunkPolicy) : ChunkPolicy :=
  ⟨1, policy.finalMaxChars, policy.finalMaxChars⟩

def partNumber (index total : Nat) : Text :=
  (toString index).toList ++ ['/'] ++ (toString total).toList ++ ['\n']

def numberParts (chunks : List Text) : List Text :=
  if 1 < chunks.length then
    chunks.mapIdx fun index chunk => partNumber (index + 1) chunks.length ++ chunk
  else chunks

/-- `final_chunks(number_parts=True)`; the buffer is empty after it. -/
def finalChunks (policy : ChunkPolicy) (buffer : Text) : Option (List Text) :=
  (readyChunks isDigit policy.final true buffer).map fun (chunks, _) => numberParts chunks

end Boundaries

def quotes : List Char := [Char.ofNat 34, Char.ofNat 39]

def idleBufferReady (text : Text) : Bool :=
  let stripped := rstrip text
  let ends (endings : List Char) : Bool := stripped.getLast?.any (· ∈ endings)
  if stripped = [] then false
  else if 2000 ≤ stripped.length then true
  else if stripped.length < 120 then false
  else ends (['。', '！', '？', '；', '」', '）', ')'] ++ quotes) || ends ['.', '!', '?'] ||
    fence.isSuffixOf stripped || ['\n', '\n'].isSuffixOf text ||
    ['\n'].isSuffixOf text && 200 ≤ stripped.length

end Wlcodex.Telegram
