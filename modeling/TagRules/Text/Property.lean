import TagRules.Unicode.Usage

/-!
# Properties of the characters of texts

Texts know the characters of version 17.0 of the Unicode tables, which added some to those that
patterns know.

* `alphabetic`, `numeric`: letters and numbers.
* `cased`, `caseIgnorable`: what decides the form of a small sigma.
* `joining`, `printable`: which characters stand for themselves in quoted text.
-/

namespace TagRules.Text

open CharSet (ofHex)

/-- The characters that version 17.0 added. -/
def newCharacters : CharSet := ofHex "
  88F C5C CDC 1ACF-1ADD 1AE0-1AEB 20C1 2B96 A7CE-A7CF A7D2 A7D4 A7F1 FBC3-FBD2 FD90-FD91 FDC8-FDCE
  10940-10959 10EC5-10EC7 10ED0-10ED8 10EFA-10EFB 11B60-11B67 11DB0-11DDB 11DE0-11DE9 16EA0-16EB8
  16EBB-16ED3 16FF2-16FF6 187F8-187FF 18D09-18D1E 18D80-18DF2 1CCFA-1CCFC 1CEBA-1CED0 1CEE0-1CEF0
  1E6C0-1E6DE 1E6E0-1E6F5 1E6FE-1E6FF 1F6D8 1F777-1F77A 1F8D0-1F8D8 1FA54-1FA57 1FA8A 1FA8E 1FAC8
  1FACD 1FAEA 1FAEF 1FBFA 2B73A-2B73F 2CEA2-2CEAD 323B0-33479"

/-- Letters, letter-like numbers and the marks that spell with them. -/
def alphabetic : CharSet :=
  Unicode.alphabetic.union (newCharacters.diff (ofHex "
    1ACF-1ADD 1AE0-1AEB 20C1 2B96 FBC3-FBD2 FD90-FD91 FDC8-FDCE 10ED0-10ED8 11DE0-11DE9 1CCFA-1CCFC
    1CEBA-1CED0 1CEE0-1CEF0 1F6D8 1F777-1F77A 1F8D0-1F8D8 1FA54-1FA57 1FA8A 1FA8E 1FAC8 1FACD 1FAEA
    1FAEF 1FBFA"))

/-- Numbers of any kind. -/
def numeric : CharSet := Unicode.number.union (ofHex "11DE0-11DE9 16FF4-16FF6")

/-- Characters that have case. -/
def cased : CharSet :=
  (Unicode.cased.union (ofHex "A7CE-A7CF A7D2 A7D4 A7F1 16EA0-16EB8 16EBB-16ED3")).diff
    (ofHex "295")

/-- Characters that a word is read across when its case is decided. -/
def caseIgnorable : CharSet :=
  Unicode.caseIgnorable.union (ofHex "
    1ACF-1ADD 1AE0-1AEB A7F1 10EC5 10EFA-10EFB 11B60 11B62-11B64 11B66 11DD9 16FF2-16FF3 1E6E3 1E6E6
    1E6EE-1E6EF 1E6F5 1E6FF")

/-- Characters that join the character before them. The narrow sound marks stand by themselves. -/
def joining : CharSet :=
  (Unicode.graphemeExtend.union (ofHex "
    1ACF-1ADD 1AE0-1AEB 10EFA-10EFB 11B60 11B62-11B64 11B66 1E6E3 1E6E6 1E6EE-1E6EF 1E6F5")).diff
    (ofHex "FF9E-FF9F")

/-- Characters that show: neither control, format, private-use or unassigned characters, nor
separators other than the blank, nor letters without a form. -/
def printable : CharSet :=
  (CharSet.unions [Unicode.other, Unicode.separator, Unicode.defaultIgnorable]).compl.union
    (newCharacters.union (.singleton ' '))

end TagRules.Text
