import Phrasebook.Locale.Lookup
import Phrasebook.Plural.Rules

/-! The plural rules of the languages that have any in CLDR, but for Cornish and Langi (`kw`, `lag`),
whose rules are not in the data that programs are built with. Every other language puts all counts
into `other`. -/
namespace Phrasebook.PluralRules
open PluralRelation

/-- Rules for how many. -/
def cardinal : List (String × PluralRules) :=
  Locale.shared [
    (["am", "as", "bn", "doi", "fa", "gu", "hi", "kn", "kok", "pcm", "zu"],
      { one := [[is .i 0 [(0, 0)]], [is .n 0 [(1, 1)]]] }),
    (["ff", "hy", "kab"],
      { one := [[is .i 0 [(0, 0), (1, 1)]]] }),
    (["fr", "pt"],
      { one := [[is .i 0 [(0, 1)]]],
        many := [
            [is .e 0 [(0, 0)], isNot .i 0 [(0, 0)], is .i 1000000 [(0, 0)], is .v 0 [(0, 0)]],
            [isNot .e 0 [(0, 5)]]] }),
    (["ast", "de", "en", "et", "fi", "fy", "gl", "ia", "ie", "io", "ji", "lij", "nl", "sc", "sv",
      "sw", "ur", "yi"],
      { one := [[is .i 0 [(1, 1)], is .v 0 [(0, 0)]]] }),
    (["si"],
      { one := [[is .n 0 [(0, 0), (1, 1)]], [is .i 0 [(0, 0)], is .f 0 [(1, 1)]]] }),
    (["ak", "bho", "csw", "guw", "ln", "mg", "nso", "pa", "ti", "wa"],
      { one := [[is .n 0 [(0, 1)]]] }),
    (["tzm"],
      { one := [[is .n 0 [(0, 1)]], [is .n 0 [(11, 99)]]] }),
    (["he", "iw"],
      { one := [[is .i 0 [(1, 1)], is .v 0 [(0, 0)]], [is .i 0 [(0, 0)], isNot .v 0 [(0, 0)]]],
        two := [[is .i 0 [(2, 2)], is .v 0 [(0, 0)]]] }),
    (["cs", "sk"],
      { one := [[is .i 0 [(1, 1)], is .v 0 [(0, 0)]]],
        few := [[is .i 0 [(2, 4)], is .v 0 [(0, 0)]]],
        many := [[isNot .v 0 [(0, 0)]]] }),
    (["mo", "ro"],
      { one := [[is .i 0 [(1, 1)], is .v 0 [(0, 0)]]],
        few := [
            [isNot .v 0 [(0, 0)]],
            [is .n 0 [(0, 0)]],
            [isNot .n 0 [(1, 1)], is .n 100 [(1, 19)]]] }),
    (["pl"],
      { one := [[is .i 0 [(1, 1)], is .v 0 [(0, 0)]]],
        few := [[is .v 0 [(0, 0)], is .i 10 [(2, 4)], isNot .i 100 [(12, 14)]]],
        many := [
            [is .v 0 [(0, 0)], isNot .i 0 [(1, 1)], is .i 10 [(0, 1)]],
            [is .v 0 [(0, 0)], is .i 10 [(5, 9)]],
            [is .v 0 [(0, 0)], is .i 100 [(12, 14)]]] }),
    (["ca", "it", "lld", "pt-PT", "scn", "vec"],
      { one := [[is .i 0 [(1, 1)], is .v 0 [(0, 0)]]],
        many := [
            [is .e 0 [(0, 0)], isNot .i 0 [(0, 0)], is .i 1000000 [(0, 0)], is .v 0 [(0, 0)]],
            [isNot .e 0 [(0, 5)]]] }),
    (["br"],
      { one := [[is .n 10 [(1, 1)], isNot .n 100 [(11, 11), (71, 71), (91, 91)]]],
        two := [[is .n 10 [(2, 2)], isNot .n 100 [(12, 12), (72, 72), (92, 92)]]],
        few := [[is .n 10 [(3, 4), (9, 9)], isNot .n 100 [(10, 19), (70, 79), (90, 99)]]],
        many := [[isNot .n 0 [(0, 0)], is .n 1000000 [(0, 0)]]] }),
    (["lt"],
      { one := [[is .n 10 [(1, 1)], isNot .n 100 [(11, 19)]]],
        few := [[is .n 10 [(2, 9)], isNot .n 100 [(11, 19)]]],
        many := [[isNot .f 0 [(0, 0)]]] }),
    (["be"],
      { one := [[is .n 10 [(1, 1)], isNot .n 100 [(11, 11)]]],
        few := [[is .n 10 [(2, 4)], isNot .n 100 [(12, 14)]]],
        many := [[is .n 10 [(0, 0)]], [is .n 10 [(5, 9)]], [is .n 100 [(11, 14)]]] }),
    (["af", "an", "asa", "az", "bal", "bem", "bez", "bg", "brx", "ce", "cgg", "chr", "ckb", "dv",
      "ee", "el", "eo", "eu", "fo", "fur", "gsw", "ha", "haw", "hu", "jgo", "jmc", "ka", "kaj",
      "kcg", "kk", "kkj", "kl", "ks", "ksb", "ku", "ky", "lb", "lg", "mas", "mgo", "ml", "mn", "mr",
      "nah", "nb", "nd", "ne", "nn", "nnh", "no", "nr", "ny", "nyn", "om", "or", "os", "pap", "ps",
      "rm", "rof", "rwk", "saq", "sd", "sdh", "seh", "sn", "so", "sq", "ss", "ssy", "st", "syr",
      "ta", "te", "teo", "tig", "tk", "tn", "tr", "ts", "ug", "uz", "ve", "vo", "vun", "wae", "xh",
      "xog"],
      { one := [[is .n 0 [(1, 1)]]] }),
    (["blo", "cv", "ksh"],
      { zero := [[is .n 0 [(0, 0)]]],
        one := [[is .n 0 [(1, 1)]]] }),
    (["iu", "naq", "sat", "se", "sma", "smi", "smj", "smn", "sms"],
      { one := [[is .n 0 [(1, 1)]]],
        two := [[is .n 0 [(2, 2)]]] }),
    (["shi"],
      { one := [[is .i 0 [(0, 0)]], [is .n 0 [(1, 1)]]],
        few := [[is .n 0 [(2, 10)]]] }),
    (["da"],
      { one := [[is .n 0 [(1, 1)]], [isNot .t 0 [(0, 0)], is .i 0 [(0, 0), (1, 1)]]] }),
    (["gd"],
      { one := [[is .n 0 [(1, 1), (11, 11)]]],
        two := [[is .n 0 [(2, 2), (12, 12)]]],
        few := [[is .n 0 [(3, 10), (13, 19)]]] }),
    (["es"],
      { one := [[is .n 0 [(1, 1)]]],
        many := [
            [is .e 0 [(0, 0)], isNot .i 0 [(0, 0)], is .i 1000000 [(0, 0)], is .v 0 [(0, 0)]],
            [isNot .e 0 [(0, 5)]]] }),
    (["mt"],
      { one := [[is .n 0 [(1, 1)]]],
        two := [[is .n 0 [(2, 2)]]],
        few := [[is .n 0 [(0, 0)]], [is .n 100 [(3, 10)]]],
        many := [[is .n 100 [(11, 19)]]] }),
    (["ga"],
      { one := [[is .n 0 [(1, 1)]]],
        two := [[is .n 0 [(2, 2)]]],
        few := [[is .n 0 [(3, 6)]]],
        many := [[is .n 0 [(7, 10)]]] }),
    (["is"],
      { one := [
            [is .t 0 [(0, 0)], is .i 10 [(1, 1)], isNot .i 100 [(11, 11)]],
            [is .t 10 [(1, 1)], isNot .t 100 [(11, 11)]]] }),
    (["mk"],
      { one := [
            [is .v 0 [(0, 0)], is .i 10 [(1, 1)], isNot .i 100 [(11, 11)]],
            [is .f 10 [(1, 1)], isNot .f 100 [(11, 11)]]] }),
    (["bs", "hr", "sh", "sr"],
      { one := [
            [is .v 0 [(0, 0)], is .i 10 [(1, 1)], isNot .i 100 [(11, 11)]],
            [is .f 10 [(1, 1)], isNot .f 100 [(11, 11)]]],
        few := [
            [is .v 0 [(0, 0)], is .i 10 [(2, 4)], isNot .i 100 [(12, 14)]],
            [is .f 10 [(2, 4)], isNot .f 100 [(12, 14)]]] }),
    (["ru", "uk"],
      { one := [[is .v 0 [(0, 0)], is .i 10 [(1, 1)], isNot .i 100 [(11, 11)]]],
        few := [[is .v 0 [(0, 0)], is .i 10 [(2, 4)], isNot .i 100 [(12, 14)]]],
        many := [
            [is .v 0 [(0, 0)], is .i 10 [(0, 0)]],
            [is .v 0 [(0, 0)], is .i 10 [(5, 9)]],
            [is .v 0 [(0, 0)], is .i 100 [(11, 14)]]] }),
    (["sl"],
      { one := [[is .v 0 [(0, 0)], is .i 100 [(1, 1)]]],
        two := [[is .v 0 [(0, 0)], is .i 100 [(2, 2)]]],
        few := [[is .v 0 [(0, 0)], is .i 100 [(3, 4)]], [isNot .v 0 [(0, 0)]]] }),
    (["dsb", "hsb"],
      { one := [[is .v 0 [(0, 0)], is .i 100 [(1, 1)]], [is .f 100 [(1, 1)]]],
        two := [[is .v 0 [(0, 0)], is .i 100 [(2, 2)]], [is .f 100 [(2, 2)]]],
        few := [[is .v 0 [(0, 0)], is .i 100 [(3, 4)]], [is .f 100 [(3, 4)]]] }),
    (["gv"],
      { one := [[is .v 0 [(0, 0)], is .i 10 [(1, 1)]]],
        two := [[is .v 0 [(0, 0)], is .i 10 [(2, 2)]]],
        few := [
            [is .v 0 [(0, 0)], is .i 100 [(0, 0), (20, 20), (40, 40), (60, 60), (80, 80)]]],
        many := [[isNot .v 0 [(0, 0)]]] }),
    (["sgs"],
      { one := [[is .n 10 [(1, 1)], isNot .n 100 [(11, 11)]]],
        two := [[is .n 0 [(2, 2)]]],
        few := [[isNot .n 0 [(2, 2)], is .n 10 [(2, 9)], isNot .n 100 [(11, 19)]]],
        many := [[isNot .f 0 [(0, 0)]]] }),
    (["ceb", "fil", "tl"],
      { one := [
            [is .v 0 [(0, 0)], is .i 0 [(1, 1), (2, 2), (3, 3)]],
            [is .v 0 [(0, 0)], isNot .i 10 [(4, 4), (6, 6), (9, 9)]],
            [isNot .v 0 [(0, 0)], isNot .f 10 [(4, 4), (6, 6), (9, 9)]]] }),
    (["lv", "prg"],
      { zero := [
            [is .n 10 [(0, 0)]],
            [is .n 100 [(11, 19)]],
            [is .v 0 [(2, 2)], is .f 100 [(11, 19)]]],
        one := [
            [is .n 10 [(1, 1)], isNot .n 100 [(11, 11)]],
            [is .v 0 [(2, 2)], is .f 10 [(1, 1)], isNot .f 100 [(11, 11)]],
            [isNot .v 0 [(2, 2)], is .f 10 [(1, 1)]]] }),
    (["ar", "ars"],
      { zero := [[is .n 0 [(0, 0)]]],
        one := [[is .n 0 [(1, 1)]]],
        two := [[is .n 0 [(2, 2)]]],
        few := [[is .n 100 [(3, 10)]]],
        many := [[is .n 100 [(11, 99)]]] }),
    (["cy"],
      { zero := [[is .n 0 [(0, 0)]]],
        one := [[is .n 0 [(1, 1)]]],
        two := [[is .n 0 [(2, 2)]]],
        few := [[is .n 0 [(3, 3)]]],
        many := [[is .n 0 [(6, 6)]]] })]

/-- Rules for which one in order. -/
def ordinal : List (String × PluralRules) :=
  Locale.shared [
    (["be"],
      { few := [[is .n 10 [(2, 2), (3, 3)], isNot .n 100 [(12, 12), (13, 13)]]] }),
    (["uk"],
      { few := [[is .n 10 [(3, 3)], isNot .n 100 [(13, 13)]]] }),
    (["tk"],
      { few := [[is .n 10 [(6, 6), (9, 9)]], [is .n 0 [(10, 10)]]] }),
    (["kk"],
      { many := [[is .n 10 [(6, 6)]], [is .n 10 [(9, 9)]], [is .n 10 [(0, 0)], isNot .n 0 [(0, 0)]]] }),
    (["it", "lld", "sc", "vec"],
      { many := [[is .n 0 [(11, 11), (8, 8), (80, 80), (800, 800)]]] }),
    (["lij", "scn"],
      { many := [[is .n 0 [(11, 11), (8, 8), (80, 89), (800, 899)]]] }),
    (["mk"],
      { one := [[is .i 10 [(1, 1)], isNot .i 100 [(11, 11)]]],
        two := [[is .i 10 [(2, 2)], isNot .i 100 [(12, 12)]]],
        many := [[is .i 10 [(7, 7), (8, 8)], isNot .i 100 [(17, 17), (18, 18)]]] }),
    (["ka"],
      { one := [[is .i 0 [(1, 1)]]],
        many := [[is .i 0 [(0, 0)]], [is .i 100 [(2, 20), (40, 40), (60, 60), (80, 80)]]] }),
    (["en"],
      { one := [[is .n 10 [(1, 1)], isNot .n 100 [(11, 11)]]],
        two := [[is .n 10 [(2, 2)], isNot .n 100 [(12, 12)]]],
        few := [[is .n 10 [(3, 3)], isNot .n 100 [(13, 13)]]] }),
    (["sv"],
      { one := [[is .n 10 [(1, 1), (2, 2)], isNot .n 100 [(11, 11), (12, 12)]]] }),
    (["es"],
      { one := [[is .n 10 [(1, 1), (3, 3)], isNot .n 100 [(11, 11)]]] }),
    (["bal", "fil", "fr", "ga", "hy", "lo", "mo", "ms", "ro", "tl", "vi"],
      { one := [[is .n 0 [(1, 1)]]] }),
    (["ne"],
      { one := [[is .n 0 [(1, 4)]]] }),
    (["gd"],
      { one := [[is .n 0 [(1, 1), (11, 11)]]],
        two := [[is .n 0 [(2, 2), (12, 12)]]],
        few := [[is .n 0 [(3, 3), (13, 13)]]] }),
    (["ca"],
      { one := [[is .n 0 [(1, 1), (3, 3)]]],
        two := [[is .n 0 [(2, 2)]]],
        few := [[is .n 0 [(4, 4)]]] }),
    (["kok", "mr"],
      { one := [[is .n 0 [(1, 1)]]],
        two := [[is .n 0 [(2, 2), (3, 3)]]],
        few := [[is .n 0 [(4, 4)]]] }),
    (["hu"],
      { one := [[is .n 0 [(1, 1), (5, 5)]]] }),
    (["as", "bn"],
      { one := [[is .n 0 [(1, 1), (5, 5), (7, 7), (8, 8), (9, 9), (10, 10)]]],
        two := [[is .n 0 [(2, 2), (3, 3)]]],
        few := [[is .n 0 [(4, 4)]]],
        many := [[is .n 0 [(6, 6)]]] }),
    (["or"],
      { one := [[is .n 0 [(1, 1), (5, 5), (7, 9)]]],
        two := [[is .n 0 [(2, 2), (3, 3)]]],
        few := [[is .n 0 [(4, 4)]]],
        many := [[is .n 0 [(6, 6)]]] }),
    (["az"],
      { one := [
            [is .i 10 [(1, 1), (2, 2), (5, 5), (7, 7), (8, 8)]],
            [is .i 100 [(20, 20), (50, 50), (70, 70), (80, 80)]]],
        few := [
            [is .i 10 [(3, 3), (4, 4)]],
            [is .i 1000 [(100, 100), (200, 200), (300, 300), (400, 400), (500, 500), (600, 600),
              (700, 700), (800, 800), (900, 900)]]],
        many := [
            [is .i 0 [(0, 0)]],
            [is .i 10 [(6, 6)]],
            [is .i 100 [(40, 40), (60, 60), (90, 90)]]] }),
    (["blo"],
      { zero := [[is .i 0 [(0, 0)]]],
        one := [[is .i 0 [(1, 1)]]],
        few := [[is .i 0 [(2, 6)]]] }),
    (["sq"],
      { one := [[is .n 0 [(1, 1)]]],
        many := [[is .n 10 [(4, 4)], isNot .n 100 [(14, 14)]]] }),
    (["gu", "hi"],
      { one := [[is .n 0 [(1, 1)]]],
        two := [[is .n 0 [(2, 2), (3, 3)]]],
        few := [[is .n 0 [(4, 4)]]],
        many := [[is .n 0 [(6, 6)]]] }),
    (["cy"],
      { zero := [[is .n 0 [(0, 0), (7, 7), (8, 8), (9, 9)]]],
        one := [[is .n 0 [(1, 1)]]],
        two := [[is .n 0 [(2, 2)]]],
        few := [[is .n 0 [(3, 3), (4, 4)]]],
        many := [[is .n 0 [(5, 5), (6, 6)]]] })]

/-- The rules of a locale's language. -/
def ofLocale (l : Locale) : RuleKind → PluralRules
  | .cardinal => l.lookup cardinal {}
  | .ordinal => l.lookup ordinal {}

end Phrasebook.PluralRules
