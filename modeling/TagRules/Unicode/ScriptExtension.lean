import TagRules.Unicode.Script

/-!
# Characters of several scripts

A character that is used in several scripts belongs to none of them as its script, but may be
counted to each of them. The lists are those of version 16.0 of the Unicode tables. The lists are those of version 16.0 of the Unicode tables. The lists are those of version 16.0 of the Unicode tables. The lists are those of version 16.0 of the Unicode tables. The lists are those of version 16.0 of the Unicode tables.

* `sharedCharacters`: for each script, by its short name, the characters that it shares.
* `extendedScripts`: the scripts with the characters that they share.
-/

namespace TagRules.Unicode

open CharSet (ofHex)

/-- For each script, by its short name, the characters that it shares with other scripts. -/
def sharedCharacters : List (String × CharSet) := [
  ("adlm", ofHex "61F 640 204F 2E41"),
  ("aghb", ofHex "304 331 35E"),
  ("arab", ofHex "60C 61B 61F 640 64B-655 670 204F 2E41 FD3E-FD3F 102E0-102FB"),
  ("armn", ofHex "308"),
  ("avst", ofHex "B7 2E30-2E31"),
  ("beng", ofHex "2BC 951-952 964-965 1CD0 1CD2 1CD5-1CD6 1CD8 1CE1 1CEA 1CED 1CF2 1CF5-1CF7 A8F1"),
  ("bopo", ofHex "
    2C7 2C9-2CB 2D9 3001-3003 3008-3011 3013-301F 302A-302D 3030 3037 30FB FE45-FE46 FF61-FF65"),
  ("bugi", ofHex "A9CF"),
  ("buhd", ofHex "1735-1736"),
  ("cakm", ofHex "9E6-9EF 1040-1049"),
  ("cari", ofHex "B7 205A 205D 2E31"),
  ("cher", ofHex "300-302 304 30B-30C 323-324 330-331"),
  ("copt", ofHex "B7 300 304-305 307 374-375 2E17 102E0-102FB"),
  ("cpmn", ofHex "10100-10101"),
  ("cprt", ofHex "10100-10102 10107-10133 10137-1013F"),
  ("cyrl", ofHex "2BC 300-302 304 306 308 30B 311 485-486 1DF8 2E43"),
  ("deva", ofHex "2BC 951-952 964-965 1CD0-1CF6 1CF8-1CF9 20F0 A830-A839"),
  ("dogr", ofHex "964-96F A830-A839"),
  ("dupl", ofHex "B7 307-308 30A 323-324 2E3C 1BCA0-1BCA3"),
  ("elba", ofHex "B7 305"),
  ("ethi", ofHex "30E"),
  ("gara", ofHex "60C 61B 61F"),
  ("geor", ofHex "B7 589 10FB 205A 2E31"),
  ("glag", ofHex "B7 303 305 484 487 589 10FB 205A 2E43 A66F"),
  ("gong", ofHex "B7 964-965"),
  ("gonm", ofHex "964-965"),
  ("goth", ofHex "B7 304-305 308 331"),
  ("gran", ofHex "
    951-952 964-965 BE6-BF3 1CD0 1CD2-1CD3 1CF2-1CF4 1CF8-1CF9 20F0 1133B 11FD0-11FD1 11FD3"),
  ("grek", ofHex "B7 300-301 304 306 308 313 342 345 374 1DC0-1DC1 205D"),
  ("gujr", ofHex "951-952 964-965 A830-A839"),
  ("gukh", ofHex "965"),
  ("guru", ofHex "951-952 964-965 A830-A839"),
  ("hang", ofHex "3001-3003 3008-3011 3013-301F 3030 3037 30FB FE45-FE46 FF61-FF65"),
  ("hani", ofHex "
    B7 2FF0-2FFF 3001-3003 3006 3008-3011 3013-301F 302A-302D 3030 3037 303C-303F 30FB 3190-319F
    31C0-31E5 31EF 3220-3247 3280-32B0 32C0-32CB 32FF 3358-3370 337B-337F 33E0-33FE A700-A707
    FE45-FE46 FF61-FF65 1D360-1D371 1F250-1F251"),
  ("hano", ofHex "1735-1736"),
  ("hebr", ofHex "307-308"),
  ("hira", ofHex "
    3001-3003 3008-3011 3013-301F 3030-3035 3037 303C-303D 3099-309C 30A0 30FB-30FC FE45-FE46
    FF61-FF65 FF70 FF9E-FF9F"),
  ("hung", ofHex "205A 205D 2E31 2E41"),
  ("java", ofHex "A9CF"),
  ("kali", ofHex "A92E"),
  ("kana", ofHex "
    305 323 3001-3003 3008-3011 3013-301F 3030-3035 3037 303C-303D 3099-309C 30A0 30FB-30FC
    FE45-FE46 FF61-FF65 FF70 FF9E-FF9F"),
  ("khoj", ofHex "AE6-AEF A830-A839"),
  ("knda", ofHex "951-952 964-965 1CD0 1CD2-1CD3 1CDA 1CF2 1CF4 A830-A835"),
  ("kthi", ofHex "966-96F 2E31 A830-A839"),
  ("latn", ofHex "
    B7 2BC 2C7 2C9-2CB 2CD 2D7 2D9 300-30E 310-311 313 320 323-325 32D-32E 330-331 358 35E 363-36F
    485-486 951-952 10FB 1DF8 202F 20F0 2E17 A700-A707 A92E"),
  ("limb", ofHex "965"),
  ("lina", ofHex "10107-10133"),
  ("linb", ofHex "10100-10102 10107-10133 10137-1013F"),
  ("lisu", ofHex "2BC 2CD 300A-300B"),
  ("lyci", ofHex "205A"),
  ("lydi", ofHex "B7 2E31"),
  ("mahj", ofHex "B7 964-96F A830-A839"),
  ("mand", ofHex "640"),
  ("mani", ofHex "640"),
  ("mero", ofHex "205D"),
  ("mlym", ofHex "951-952 964-965 1CDA 1CF2 A830-A832"),
  ("modi", ofHex "A830-A839"),
  ("mong", ofHex "1802-1803 1805 202F 3001-3002 3008-300B"),
  ("mult", ofHex "A66-A6F"),
  ("mymr", ofHex "A92E"),
  ("nand", ofHex "964-965 CE6-CEF 1CE9 1CF2 1CFA A830-A835"),
  ("nkoo", ofHex "60C 61B 61F FD3E-FD3F"),
  ("onao", ofHex "964-965"),
  ("orkh", ofHex "205A 2E30"),
  ("orya", ofHex "951-952 964-965 1CDA 1CF2"),
  ("osge", ofHex "301 304 30B 358"),
  ("ougr", ofHex "640 10AF2"),
  ("perm", ofHex "B7 300 306-308 313 483"),
  ("phag", ofHex "1802-1803 1805 202F 3002"),
  ("phlp", ofHex "640"),
  ("rohg", ofHex "60C 61B 61F 640 6D4"),
  ("runr", ofHex "16EB-16ED"),
  ("samr", ofHex "2E31"),
  ("shaw", ofHex "B7"),
  ("shrd", ofHex "951 1CD7 1CD9 1CDC-1CDD 1CE0 A830-A835 A838"),
  ("sind", ofHex "964-965 A830-A839"),
  ("sinh", ofHex "964-965 1CF2"),
  ("sogd", ofHex "640"),
  ("sunu", ofHex "300-301 303 30D 310 32D 331"),
  ("sylo", ofHex "964-965 9E6-9EF"),
  ("syrc", ofHex "
    303-304 307-308 30A 320 323-325 32D-32E 330 60C 61B-61C 61F 640 64B-655 670 1DF8 1DFA"),
  ("tagb", ofHex "1735-1736"),
  ("takr", ofHex "964-965 A830-A839"),
  ("tale", ofHex "300-301 307-308 30C 1040-1049"),
  ("taml", ofHex "951-952 964-965 1CDA A8F3 11301 11303 1133B-1133C"),
  ("tang", ofHex "2FF0-2FFF 31EF"),
  ("telu", ofHex "951-952 964-965 1CDA 1CF2"),
  ("tfng", ofHex "302 304 307 309"),
  ("tglg", ofHex "1735-1736"),
  ("thaa", ofHex "60C 61B-61C 61F 660-669 FDF2 FDFD"),
  ("thai", ofHex "2BC 2D7 303 331"),
  ("tibt", ofHex "3008-300B"),
  ("tirh", ofHex "951-952 964-965 1CF2 A830-A839"),
  ("todr", ofHex "301 304 307 311 313 35E"),
  ("toto", ofHex "2BC"),
  ("tutg", ofHex "CE6-CEF 1CF2 1CF4 A830-A835 A8F1"),
  ("yezi", ofHex "60C 61B 61F 660-669"),
  ("yiii", ofHex "3001-3002 3008-3011 3014-301B 30FB FF61-FF65")]

/-- A script with the characters that it shares. What other scripts share is not common to all. -/
def extendScript (name : String) (s : CharSet) : CharSet :=
  if name ∈ ["zyyy", "zinh"] then s.diff (.unions (sharedCharacters.map Prod.snd))
  else s.union ((sharedCharacters.lookup name).getD .empty)

/-- The scripts with the characters that they share, each with its long and its short name. -/
def extendedScripts : List (String × String × CharSet) :=
  scripts.map fun (long, short, s) => (long, short, extendScript short s)

end TagRules.Unicode
