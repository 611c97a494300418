import KDoctor.Lib.Go

/-!
The name checks of the DNS client library (`github.com/miekg/dns`,
`defaults.go`): `IsFqdn`, `Fqdn` and `IsDomainName`, over the bytes of a name
read as characters.

A Go string is a sequence of bytes, and `IsDomainName` indexes it byte by
byte; the model reads a name as one `Char` per byte. For a name of ASCII
characters the two agree. For a name with other characters they do not: a
character that UTF-8 writes in two to four bytes counts once here, so the
bounds of 63 bytes a label and 255 bytes a name are counted in characters,
and a label or a name of such characters that Go refuses for its length may
pass here.

`IsDomainName` walks the name, with a final dot put on it, once: a backslash
escapes the next byte, or the three digits of one byte; a dot ends a label,
which must not be empty (two dots in a row, or a first dot in a name other
than `.`), must have fewer than 64 bytes, and must keep the wire form of the
name within 256 bytes.
-/

namespace KDoctor.DnsName

open Go

/-- `isDigit`. -/
def isDigit (c : Char) : Bool := '0' ≤ c && c ≤ '9'

/-- `IsFqdn`: the name ends in a dot with an even number of backslashes
before it. -/
def isFqdn (s : String) : Bool :=
  let s2 := trimSuffix s "."
  if s = s2 then false
  else (s2.toList.length - lastIndexFunc (fun r => r != '\\') s2.toList) % 2 != 0

/-- `Fqdn`. -/
def fqdn (s : String) : String := if isFqdn s then s else s ++ "."

/-- `lenmsg`: the longest wire form of a name. -/
def lenmsg : Nat := 256

/-- How many bytes after a backslash it escapes: the three digits of a byte
(`\\DDD`), or the next byte. -/
def escapeLength : List Char → Nat
  | d1 :: d2 :: d3 :: _ => if isDigit d1 && isDigit d2 && isDigit d3 then 3 else 1
  | _ => 1

/-- The loop of `IsDomainName` over the bytes from index `i` of a name of `n`
bytes on, with the length `off` of the wire form so far, the index `begin`
of the label less the escapes in it, whether the last byte was a dot, the
bytes still to step over after a backslash (Go's `i++` or `i += 3`), and the
labels so far. -/
def domainNameLoop (n : Nat) : List Char → Nat → Nat → Nat → Bool → Nat → Nat → Nat × Bool
  | [], _, _, _, _, _, labels => (labels, true)
  | _ :: rest, i, off, begin, wasDot, skip + 1, labels =>
    domainNameLoop n rest (i + 1) off begin wasDot skip labels
  | c :: rest, i, off, begin, wasDot, 0, labels =>
    if c = '\\' then
      if off + 1 > lenmsg then (labels, false)
      else
        domainNameLoop n rest (i + 1) off (begin + escapeLength rest) false (escapeLength rest) labels
    else if c = '.' then
      -- leading dots are not legal except for the root zone
      if i = 0 ∧ n > 1 then (labels, false)
      else if wasDot then (labels, false)
      else if i - begin ≥ 2 ^ 6 then (labels, false)
      else if off + 1 + (i - begin) > lenmsg then (labels, false)
      else domainNameLoop n rest (i + 1) (off + 1 + (i - begin)) (i + 1) true 0 (labels + 1)
    else domainNameLoop n rest (i + 1) off begin false 0 labels

/-- `IsDomainName`: the number of labels, and whether the name is one. -/
def isDomainName (s : String) : Nat × Bool :=
  if s.toList.length = 0 then (0, false)
  else
    let s := fqdn s
    domainNameLoop s.toList.length s.toList 0 0 0 false 0 0

example : isDomainName "kubernetes.default.svc.cluster.local" = (5, true) := by decide

example : isDomainName "kubernetes..default" = (1, false) := by decide

end KDoctor.DnsName
