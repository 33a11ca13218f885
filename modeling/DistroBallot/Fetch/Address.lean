import DistroBallot.Text.Basic

/-!
# Addresses in brackets

The host of a URL may stand in brackets. It is then an IPv6 address, with an optional zone, or an
address of a later version, which starts with the letter `v`.

An IPv6 address has eight groups of up to four hexadecimal digits between colons; one run of groups
may be left out where two colons meet, and the last two groups may be written as an IPv4 address.
-/

namespace DistroBallot
namespace Address

/-- Whether the character is a hexadecimal digit. -/
def isHexDigit (c : Char) : Bool :=
  c.isDigit || ('a' ≤ c && c ≤ 'f') || ('A' ≤ c && c ≤ 'F')

/-- A group of an IPv6 address: one to four hexadecimal digits. -/
def isGroup (t : Text) : Bool :=
  !t.isEmpty && t.length ≤ 4 && t.all isHexDigit

/-- A part of an IPv4 address: a number up to 255 without needless zeros. -/
def isOctet (t : Text) : Bool :=
  !t.isEmpty && t.length ≤ 3 && t.all Char.isDigit && (t == ['0'] || t.head? != some '0') &&
    decide (t.foldl (fun v c => 10 * v + (c.toNat - 48)) 0 ≤ 255)

/-- Four parts between points. -/
def isIPv4 (t : Text) : Bool :=
  let parts := Text.pieces (· != '.') t
  parts.length == 4 && parts.all isOctet

/-- The parts between colons, with an IPv4 address at the end replaced by two groups. -/
def groupParts? (t : Text) : Option (List Text) :=
  let parts := Text.pieces (· != ':') t
  match parts.getLast? with
  | none => none
  | some last =>
    if parts.length < 3 then none
    else if last.contains '.' then
      if isIPv4 last then some (parts.dropLast ++ [['0'], ['0']]) else none
    else some parts

/-- The places of the empty parts that are neither first nor last. -/
def innerGaps (parts : List Text) : List Nat :=
  (List.range parts.length).filter fun i =>
    decide (0 < i) && decide (i + 1 < parts.length) && (parts.getD i []).isEmpty

/-- The groups on one side of a gap: an empty part at the outer end is allowed only if it is the
only one there, where the gap reaches the end. -/
def sideGroups? (outerEmpty : Bool) (count : Nat) : Option Nat :=
  if outerEmpty then (if count = 1 then some 0 else none) else some count

/-- Whether the text is an IPv6 address without a zone. -/
def isIPv6 (t : Text) : Bool :=
  match groupParts? t with
  | none => false
  | some parts =>
    if 9 < parts.length then false
    else match innerGaps parts with
      | [] => parts.length == 8 && parts.all isGroup
      | [gap] =>
        let above := sideGroups? (parts.getD 0 []).isEmpty gap
        let below := sideGroups? (parts.getLastD []).isEmpty (parts.length - gap - 1)
        match above, below with
        | some high, some low =>
          decide (high + low < 8) && (parts.take high).all isGroup &&
            (parts.drop (parts.length - low)).all isGroup
        | _, _ => false
      | _ => false

/-- Whether the text is an IPv6 address, with a zone after a percent sign if there is one. -/
def isScopedIPv6 (t : Text) : Bool :=
  match Text.cutAt '%' t with
  | (address, none) => !t.contains '/' && isIPv6 address
  | (address, some zone) =>
    !t.contains '/' && !zone.isEmpty && !zone.contains '%' && isIPv6 address

/-- Whether the text is an address of a later version: `v`, hexadecimal digits, a point and more. -/
def isFuture (t : Text) : Bool :=
  match t with
  | 'v' :: rest =>
    !(rest.takeWhile isHexDigit).isEmpty && (match rest.dropWhile isHexDigit with
      | '.' :: c :: more => (c :: more).all (· != '\n')
      | _ => false)
  | _ => false

/-- Whether a text may stand between brackets as a host. -/
def isBracketed (t : Text) : Bool :=
  if t.head? == some 'v' then isFuture t else isScopedIPv6 t

end Address
end DistroBallot
