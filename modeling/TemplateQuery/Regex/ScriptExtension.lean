import TemplateQuery.Regex.Script

/-! Characters that several scripts share, or that are used with another script than their own. -/

set_option autoImplicit false

namespace TemplateQuery.Regex

open Text

/-- The short names of the scripts that use the characters, where these are not just their own. -/
def sharedScripts : List (List String × CodeRanges) :=
  [(["avst", "cari", "copt", "dupl", "elba", "geor", "glag", "gong", "goth", "grek", "hani", "latn",
     "lydi", "mahj", "perm", "shaw"], .ofLines
    ["00B7"]),
   (["beng", "cyrl", "deva", "latn", "lisu", "thai", "toto"], .ofLines
    ["02BC"]),
   (["bopo", "latn"], .ofLines
    ["02C7 02C9-02CB 02D9"]),
   (["latn", "lisu"], .ofLines
    ["02CD"]),
   (["latn", "thai"], .ofLines
    ["02D7"]),
   (["cher", "copt", "cyrl", "grek", "latn", "perm", "sunu", "tale"], .ofLines
    ["0300"]),
   (["cher", "cyrl", "grek", "latn", "osge", "sunu", "tale", "todr"], .ofLines
    ["0301"]),
   (["cher", "cyrl", "latn", "tfng"], .ofLines
    ["0302"]),
   (["glag", "latn", "sunu", "syrc", "thai"], .ofLines
    ["0303"]),
   (["aghb", "cher", "copt", "cyrl", "goth", "grek", "latn", "osge", "syrc", "tfng", "todr"], .ofLines
    ["0304"]),
   (["copt", "elba", "glag", "goth", "kana", "latn"], .ofLines
    ["0305"]),
   (["cyrl", "grek", "latn", "perm", "tfng"], .ofLines
    ["0306"]),
   (["copt", "dupl", "hebr", "latn", "perm", "syrc", "tale", "tfng", "todr"], .ofLines
    ["0307"]),
   (["armn", "cyrl", "dupl", "goth", "grek", "hebr", "latn", "perm", "syrc", "tale", "tfng"], .ofLines
    ["0308"]),
   (["latn", "tfng"], .ofLines
    ["0309"]),
   (["dupl", "latn", "syrc"], .ofLines
    ["030A"]),
   (["cher", "cyrl", "latn", "osge"], .ofLines
    ["030B"]),
   (["cher", "latn", "tale"], .ofLines
    ["030C"]),
   (["latn", "sunu"], .ofLines
    ["030D 0310"]),
   (["ethi", "latn"], .ofLines
    ["030E"]),
   (["cyrl", "latn", "todr"], .ofLines
    ["0311"]),
   (["grek", "latn", "perm", "todr"], .ofLines
    ["0313"]),
   (["cher", "dupl", "kana", "latn", "syrc", "tfng"], .ofLines
    ["0323"]),
   (["cher", "dupl", "latn", "syrc"], .ofLines
    ["0324"]),
   (["latn", "syrc"], .ofLines
    ["0325 032E"]),
   (["latn", "sunu", "syrc"], .ofLines
    ["032D"]),
   (["cher", "latn", "syrc"], .ofLines
    ["0330"]),
   (["aghb", "cher", "goth", "latn", "sunu", "syrc", "thai"], .ofLines
    ["0331"]),
   (["grek"], .ofLines
    ["0342 0345 1DC0-1DC1"]),
   (["latn", "osge"], .ofLines
    ["0358"]),
   (["aghb", "latn", "todr"], .ofLines
    ["035E"]),
   (["latn"], .ofLines
    ["0363-036F"]),
   (["copt", "grek"], .ofLines
    ["0374-0375"]),
   (["cyrl", "perm"], .ofLines
    ["0483"]),
   (["cyrl", "glag"], .ofLines
    ["0484 0487 2E43 A66F"]),
   (["cyrl", "latn"], .ofLines
    ["0485-0486"]),
   (["armn", "geor", "glag"], .ofLines
    ["0589"]),
   (["arab", "gara", "nkoo", "rohg", "syrc", "thaa", "yezi"], .ofLines
    ["060C 061B"]),
   (["arab", "syrc", "thaa"], .ofLines
    ["061C"]),
   (["adlm", "arab", "gara", "nkoo", "rohg", "syrc", "thaa", "yezi"], .ofLines
    ["061F"]),
   (["adlm", "arab", "mand", "mani", "ougr", "phlp", "rohg", "sogd", "syrc"], .ofLines
    ["0640"]),
   (["arab", "syrc"], .ofLines
    ["064B-0655 0670"]),
   (["arab", "thaa", "yezi"], .ofLines
    ["0660-0669"]),
   (["arab", "rohg"], .ofLines
    ["06D4"]),
   (["beng", "deva", "gran", "gujr", "guru", "knda", "latn", "mlym", "nand", "newa", "orya", "shrd",
     "taml", "telu", "tirh"], .ofLines
    ["0951"]),
   (["beng", "deva", "gran", "gujr", "guru", "knda", "latn", "mlym", "newa", "orya", "taml", "telu",
     "tirh"], .ofLines
    ["0952"]),
   (["beng", "deva", "dogr", "gong", "gonm", "gran", "gujr", "guru", "knda", "mahj", "mlym", "nand",
     "onao", "orya", "sind", "sinh", "sylo", "takr", "taml", "telu", "tirh"], .ofLines
    ["0964"]),
   (["beng", "deva", "dogr", "gong", "gonm", "gran", "gujr", "gukh", "guru", "knda", "limb", "mahj",
     "mlym", "nand", "onao", "orya", "sind", "sinh", "sylo", "takr", "taml", "telu", "tirh"], .ofLines
    ["0965"]),
   (["deva", "dogr", "kthi", "mahj"], .ofLines
    ["0966-096F"]),
   (["beng", "cakm", "sylo"], .ofLines
    ["09E6-09EF"]),
   (["guru", "mult"], .ofLines
    ["0A66-0A6F"]),
   (["gujr", "khoj"], .ofLines
    ["0AE6-0AEF"]),
   (["gran", "taml"], .ofLines
    ["0BE6-0BF3 11301 11303 1133B-1133C 11FD0-11FD1 11FD3"]),
   (["knda", "nand", "tutg"], .ofLines
    ["0CE6-0CEF"]),
   (["cakm", "mymr", "tale"], .ofLines
    ["1040-1049"]),
   (["geor", "glag", "latn"], .ofLines
    ["10FB"]),
   (["runr"], .ofLines
    ["16EB-16ED"]),
   (["buhd", "hano", "tagb", "tglg"], .ofLines
    ["1735-1736"]),
   (["mong", "phag"], .ofLines
    ["1802-1803 1805"]),
   (["beng", "deva", "gran", "knda"], .ofLines
    ["1CD0 1CD2"]),
   (["deva"], .ofLines
    ["1CD1 1CD4 1CDB 1CDE-1CDF 1CE3-1CE8 1CEC 1CEE-1CF1"]),
   (["deva", "gran", "knda"], .ofLines
    ["1CD3"]),
   (["beng", "deva", "newa", "telu", "tirh"], .ofLines
    ["1CD5"]),
   (["beng", "deva", "telu"], .ofLines
    ["1CD6"]),
   (["deva", "newa", "shrd"], .ofLines
    ["1CD7"]),
   (["beng", "deva", "newa", "telu"], .ofLines
    ["1CD8"]),
   (["deva", "shrd"], .ofLines
    ["1CD9 1CDC-1CDD 1CE0"]),
   (["deva", "knda", "mlym", "orya", "taml", "telu"], .ofLines
    ["1CDA"]),
   (["beng", "deva"], .ofLines
    ["1CE1 1CF5-1CF6"]),
   (["deva", "newa", "tirh"], .ofLines
    ["1CE2"]),
   (["deva", "nand", "newa"], .ofLines
    ["1CE9"]),
   (["beng", "deva", "shrd"], .ofLines
    ["1CEA"]),
   (["deva", "newa"], .ofLines
    ["1CEB"]),
   (["beng", "deva", "newa", "shrd"], .ofLines
    ["1CED"]),
   (["beng", "deva", "gran", "knda", "mlym", "nand", "orya", "sinh", "telu", "tirh", "tutg"], .ofLines
    ["1CF2"]),
   (["deva", "gran"], .ofLines
    ["1CF3 1CF8-1CF9"]),
   (["deva", "gran", "knda", "tutg"], .ofLines
    ["1CF4"]),
   (["beng"], .ofLines
    ["1CF7"]),
   (["nand"], .ofLines
    ["1CFA"]),
   (["cyrl", "latn", "syrc"], .ofLines
    ["1DF8"]),
   (["syrc"], .ofLines
    ["1DFA"]),
   (["latn", "mong", "phag"], .ofLines
    ["202F"]),
   (["adlm", "arab"], .ofLines
    ["204F"]),
   (["cari", "geor", "glag", "hung", "lyci", "orkh"], .ofLines
    ["205A"]),
   (["cari", "grek", "hung", "mero"], .ofLines
    ["205D"]),
   (["deva", "gran", "latn"], .ofLines
    ["20F0"]),
   (["copt", "latn"], .ofLines
    ["2E17"]),
   (["avst", "orkh"], .ofLines
    ["2E30"]),
   (["avst", "cari", "geor", "hung", "kthi", "lydi", "samr"], .ofLines
    ["2E31"]),
   (["dupl"], .ofLines
    ["2E3C 1BCA0-1BCA3"]),
   (["adlm", "arab", "hung"], .ofLines
    ["2E41"]),
   (["hani", "tang"], .ofLines
    ["2FF0-2FFF 31EF"]),
   (["bopo", "hang", "hani", "hira", "kana", "mong", "yiii"], .ofLines
    ["3001"]),
   (["bopo", "hang", "hani", "hira", "kana", "mong", "phag", "yiii"], .ofLines
    ["3002"]),
   (["bopo", "hang", "hani", "hira", "kana"], .ofLines
    ["3003 3013 301C-301F 3030 3037 FE45-FE46"]),
   (["hani"], .ofLines
    ["3006 303E-303F 3190-319F 31C0-31E5 3220-3247 3280-32B0 32C0-32CB 32FF 3358-3370 337B-337F 33E0-33FE",
     "1D360-1D371 1F250-1F251"]),
   (["bopo", "hang", "hani", "hira", "kana", "mong", "tibt", "yiii"], .ofLines
    ["3008-3009"]),
   (["bopo", "hang", "hani", "hira", "kana", "lisu", "mong", "tibt", "yiii"], .ofLines
    ["300A-300B"]),
   (["bopo", "hang", "hani", "hira", "kana", "yiii"], .ofLines
    ["300C-3011 3014-301B 30FB FF61-FF65"]),
   (["bopo", "hani"], .ofLines
    ["302A-302D"]),
   (["hira", "kana"], .ofLines
    ["3031-3035 3099-309C 30A0 30FC FF70 FF9E-FF9F"]),
   (["hani", "hira", "kana"], .ofLines
    ["303C-303D"]),
   (["hani", "latn"], .ofLines
    ["A700-A707"]),
   (["deva", "dogr", "gujr", "guru", "khoj", "knda", "kthi", "mahj", "mlym", "modi", "nand", "shrd",
     "sind", "takr", "tirh", "tutg"], .ofLines
    ["A830-A832"]),
   (["deva", "dogr", "gujr", "guru", "khoj", "knda", "kthi", "mahj", "modi", "nand", "shrd", "sind",
     "takr", "tirh", "tutg"], .ofLines
    ["A833-A835"]),
   (["deva", "dogr", "gujr", "guru", "khoj", "kthi", "mahj", "modi", "sind", "takr", "tirh"], .ofLines
    ["A836-A837 A839"]),
   (["deva", "dogr", "gujr", "guru", "khoj", "kthi", "mahj", "modi", "shrd", "sind", "takr", "tirh"], .ofLines
    ["A838"]),
   (["beng", "deva", "tutg"], .ofLines
    ["A8F1"]),
   (["deva", "taml"], .ofLines
    ["A8F3"]),
   (["kali", "latn", "mymr"], .ofLines
    ["A92E"]),
   (["bugi", "java"], .ofLines
    ["A9CF"]),
   (["arab", "nkoo"], .ofLines
    ["FD3E-FD3F"]),
   (["arab", "thaa"], .ofLines
    ["FDF2 FDFD"]),
   (["cpmn", "cprt", "linb"], .ofLines
    ["10100-10101"]),
   (["cprt", "linb"], .ofLines
    ["10102 10137-1013F"]),
   (["cprt", "lina", "linb"], .ofLines
    ["10107-10133"]),
   (["arab", "copt"], .ofLines
    ["102E0-102FB"]),
   (["mani", "ougr"], .ofLines
    ["10AF2"])]

def scriptExtension? (name : String) : Option CodeRanges :=
  (scripts.find? (·.1.contains name)).map fun (names, own) =>
    let used := (sharedScripts.filter fun (users, _) => users.any names.contains).flatMap Prod.snd
    (own.without (CodeRanges.normal (sharedScripts.flatMap Prod.snd))).joined used

end TemplateQuery.Regex
