/-
# FacetSearch.Engine.HostLabel — the labels of a host name.

A name is a row of labels between points.  A label in ASCII is taken as it is.  Any other label has
to be a name in its script: composed, made of the code points of names, without hyphens where they
could be mistaken, not beginning with a mark, keeping to one direction, and short enough once it is
spelled in ASCII.  Joiners and a few points of single scripts need the right neighbours.
-/
import FacetSearch.Text.Composition
import FacetSearch.Text.WritingDirection
import FacetSearch.Text.Joining
import FacetSearch.Text.LowerCase
import FacetSearch.Text.NamePoint
import FacetSearch.Text.Punycode

namespace FacetSearch.HostLabel

/-- The most code points of a label that is spelled in ASCII. -/
def maxLength : Nat := 63

/-- What stands in front of a label spelled in ASCII. -/
def asciiLead : Text := "xn--"

/-- Whether the last code point before a place silences a vowel. -/
def followsVirama (before : Text) : Bool := (before.getLast?.map CodePoint.isVirama).getD false

/-- Arabic-Indic digits. -/
def isArabicIndicDigit (c : CodePoint) : Bool := 0x660 ≤ c.val && c.val ≤ 0x669

/-- Arabic-Indic digits in their eastern forms. -/
def isEasternDigit (c : CodePoint) : Bool := 0x6F0 ≤ c.val && c.val ≤ 0x6F9

/-- A code point between what stands before and after it: a point of names, or one with the
neighbours that it needs. -/
def isAllowed (before : Text) (c : CodePoint) (after : Text) : Bool :=
  let ell : CodePoint := 'l'
  match c.val with
  | 0x200C => followsVirama before || Text.doJoin before after
  | 0x200D => followsVirama before
  | 0xB7 => before.getLast? == some ell && after.head? == some ell
  | 0x375 => (after.head?.map CodePoint.isGreek).getD false
  | 0x5F3 => (before.getLast?.map CodePoint.isHebrew).getD false
  | 0x5F4 => (before.getLast?.map CodePoint.isHebrew).getD false
  | 0x30FB => (before ++ after).any CodePoint.isKanaOrHan
  | _ =>
    if isArabicIndicDigit c then !(before ++ after).any isEasternDigit
    else if isEasternDigit c then !(before ++ after).any isArabicIndicDigit
    else c.isNamePoint

/-- Whether every code point of a label is allowed where it stands. -/
def areAllowed (before : Text) : Text → Bool
  | [] => true
  | c :: after => isAllowed before c after && areAllowed (before ++ [c]) after

/-- No hyphen at either end, and not two of them in the third and fourth place. -/
def hasHyphensInPlace (label : Text) : Bool :=
  let hyphen : CodePoint := '-'
  label.head? != some hyphen && label.getLast? != some hyphen &&
    (label.drop 2).take 2 != [hyphen, hyphen]

/-- A label that is a name in its script. -/
def isName (label : Text) : Bool :=
  label.length ≤ maxLength && hasHyphensInPlace label &&
    !(label.head?.map CodePoint.isMark).getD false && areAllowed [] label && label.isComposed &&
    WritingDirection.areUniform (label.map CodePoint.direction) &&
    (asciiLead ++ Punycode.encode label).length ≤ maxLength

/-- A label that a host name may have; capitals count as small letters. -/
def isValid (label : Text) : Bool := label.isAscii || isName label.small

end FacetSearch.HostLabel
