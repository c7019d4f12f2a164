import CurlScribe.Web.Domain.Label
import CurlScribe.Web.Domain.Punycode

/-! Domain names in their ASCII form. -/
namespace CurlScribe.Domain

def isAscii (label : List Nat) : Bool := label.all fun n => n < 0x80

/-- The text of a label: a coded one is decoded, and must have needed its code. -/
def labelText? (label : List Nat) : Option (List Nat) :=
  if codedPrefix.isPrefixOf label then
    if isAscii label then
      (Punycode.decode ((label.drop codedPrefix.length).map Char.ofNat)).bind fun text =>
        if !isAscii text && isSound text then some text else none
    else none
  else if isSound label then some label
  else none

/-- A label in ASCII. -/
def asciiLabel (text : List Nat) : List Char :=
  if isAscii text then text.map Char.ofNat else "xn--".toList ++ Punycode.encode text

/-- Never part of a domain name in ASCII. -/
def isForbidden (c : Char) : Bool :=
  c.toNat ≤ 0x20 || c.toNat == 0x7F ||
    ['#', '/', ':', '<', '>', '?', '@', '[', '\\', ']', '^', '|', '%'].contains c

/-- The ASCII form of a name: its characters mapped and composed, its labels checked and coded. -/
def toAscii? (cs : List Char) : Option (List Char) := do
  let mapped ← mapAll? (cs.map Char.toNat)
  let labels ← ((normalForm mapped).splitOn '.'.toNat).mapM labelText?
  let fits :=
    if labels.any fun label => label.any runsRightToLeft then labels.all directionsFit else true
  let name := ['.'].intercalate (labels.map asciiLabel)
  if fits && !name.any isForbidden then some name else none

end CurlScribe.Domain
