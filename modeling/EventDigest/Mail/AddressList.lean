import EventDigest.Mail.Address

/-! # Address lists in normal form

Names and local parts are quoted where they have to be, comments are dropped, and an empty pair of
brackets stands for what is no address.
-/
set_option autoImplicit false
namespace EventDigest.Mail

def withoutFirstBlank : List Piece → Except AddressFault (List Piece)
  | .blank :: rest => .ok rest
  | .word w :: rest => .ok (.word { w with blankBefore := false } :: rest)
  | [] => .ok []
  | _ => .error .dotAtNameEdge

def withoutLastBlank (pieces : List Piece) : Except AddressFault (List Piece) :=
  match pieces.getLast? with
  | none => .error .lacksContent
  | some .blank => .ok pieces.dropLast
  | some (.word w) => .ok (pieces.dropLast ++ [.word { w with blankBehind := false }])
  | some _ => .error .dotAtNameEdge

def nameText (pieces : List Piece) : Except AddressFault (List Char) :=
  if pieces.isEmpty then .ok []
  else do
    let pieces ← withoutLastBlank (← withoutFirstBlank pieces)
    return pieces.flatMap Piece.written

def quote (s : List Char) : List Char :=
  '"' :: s.flatMap (fun c => if c = '\\' || c = '"' then ['\\', c] else [c]) ++ ['"']

def nameWritten (name : List Char) : List Char := if name.any isSpecial then quote name else name

def addrSpecWritten (localPart domain : List Char) : List Char :=
  let localPart :=
    if localPart.any fun c => endsAtom c && c ≠ '.' then quote localPart else localPart
  if !domain.isEmpty then localPart ++ '@' :: domain
  else if localPart.isEmpty then ['<', '>']
  else localPart

def hasLineBreak (s : List Char) : Bool := s.any fun c => c = '\r' || c = '\n'

def Mailbox.written (m : Mailbox) : Except AddressFault (List Char) := do
  let name ← match m.name with
    | none => pure []
    | some pieces => nameText pieces
  let localPart ← m.localPart
  let domain ← m.domain
  if hasLineBreak (name ++ localPart ++ domain) then throw .lineBreak
  let spec := addrSpecWritten localPart domain
  if name.isEmpty then return spec
  let spec := if localPart.isEmpty && domain.isEmpty then [] else spec
  return nameWritten name ++ ' ' :: '<' :: spec ++ ['>']

def mailboxOrNone : Option Mailbox → Except AddressFault (List Char)
  | none => .ok ['<', '>']
  | some m => m.written

def joined (parts : List (List Char)) : List Char := List.intercalate [',', ' '] parts

def AddressEntry.written : AddressEntry → Except AddressFault (List Char)
  | .mailbox m => m.written
  | .invalid => .ok ['<', '>']
  | .group name members => do
    let name ← nameText name
    let members ← members.mapM mailboxOrNone
    let list := if members.isEmpty then [] else ' ' :: joined members
    return nameWritten name ++ ':' :: list ++ [';']
  | .spoiledGroup name => do
    let _ ← nameText name
    throw .behindGroup

def addressList (s : String) : Except AddressFault String := do
  let chars := s.toList
  let entries ← readEntries (chars.length + 1) chars
  return String.ofList (joined (← entries.mapM AddressEntry.written))

end EventDigest.Mail
