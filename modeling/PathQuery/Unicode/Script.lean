import PathQuery.Unicode.Ranges
/-! The scripts: which code points each one owns, and which it shares with others. -/
namespace PathQuery.Unicode

/-- A script under all its names, with the code points that are its own, those of other scripts
that it uses too, and those of its own that only other scripts use. -/
structure Script where
  names : List String
  own : String
  shared : String := ""
  foreign : String := ""

namespace Script

def ranges (s : Script) : Ranges := Ranges.ofText s.own

def extended (s : Script) : Ranges :=
  (Ranges.ofText s.own).without (Ranges.ofText s.foreign) ++ Ranges.ofText s.shared

def table : List Script := [
  { names := ["adlm", "adlam"],
    own := "2olc 24 4 a 4 2",
    shared := "17j 1 w 1 55a 1 2r5 1" },
  { names := ["ahom"],
    own := "1j40 r 2 f 4 n" },
  { names := ["hluw", "anatolianhieroglyphs"],
    own := "1s00 g7" },
  { names := ["arab", "arabic"],
    own := "
      16o 5 1 6 1 e 1 3 1 w 1 a b q 1 30 1 y 28 1c 6o y 5 23 1 t 1bv4 dq 2 40 w g 34 5 1 3r 31f
      v 1v 6 8 9 x 6 181s 4 1 r 1 2 1 1 2 1 1 a 1 4 1 1 1 1 6 1 4 1 1 1 1 1 1 3 1 2 1 1 2 1 1 1
      1 1 1 1 1 1 1 2 1 1 2 4 1 7 1 4 1 4 1 1 1 a 1 h 5 3 1 5 1 h 1g 2",
    shared := "170 1 e 1 3 1 w 1 a b q 1 53y 1 2r5 1 14vw 2 140 s" },
  { names := ["armn", "armenian"],
    own := "10x 12 2 1e 2 3 1chv 5",
    shared := "lk 1" },
  { names := ["avst", "avestan"],
    own := "1gqo 1i 3 7",
    shared := "53 1 8zc 2" },
  { names := ["bali", "balinese"],
    own := "5c0 25 1 1e" },
  { names := ["bamu", "bamum"],
    own := "www 2g 124o ft" },
  { names := ["bass", "bassavah"],
    own := "1zo0 u 2 6" },
  { names := ["batk", "batak"],
    own := "5hc 1g 8 4" },
  { names := ["beng", "bengali"],
    own := "1vk 4 1 8 2 2 2 m 1 7 1 1 3 4 2 9 2 2 2 4 8 1 4 2 1 5 2 p",
    shared := "jg 1 1as 2 h 2 3u2 1 1 1 2 2 1 1 8 1 8 1 2 1 4 1 2 3 rnd 1" },
  { names := ["berf", "beriaerfe"],
    own := "20f4 p 2 p" },
  { names := ["bhks", "bhaiksuki"],
    own := "1k3k 9 1 19 1 e a t" },
  { names := ["bopo", "bopomofo"],
    own := "kq 2 93t 17 34 w",
    shared := "jr 1 1 3 d 1 8x3 3 4 a 1 d a 4 2 1 6 1 5f 1 14jt 2 7u 5" },
  { names := ["brah", "brahmi"],
    own := "1hq8 26 4 10 9 1" },
  { names := ["brai", "braille"],
    own := "7wg 74" },
  { names := ["bugi", "buginese"],
    own := "54w s 2 2",
    shared := "xjj 1" },
  { names := ["buhd", "buhid"],
    own := "4lc k",
    shared := "4l1 2" },
  { names := ["cans", "canadianaboriginal"],
    own := "3y8 hs fk 1y 1ewq g" },
  { names := ["cari", "carian"],
    own := "1f34 1d",
    shared := "53 1 68y 1 2 1 2qb 1" },
  { names := ["aghb", "caucasianalbanian"],
    own := "1flc 1g b 1",
    shared := "lg 1 18 1 18 1" },
  { names := ["cakm", "chakma"],
    own := "1hxc 1h 1 i",
    shared := "1ye a 18w a" },
  { names := ["cham"],
    own := "xkw 1j 9 e 2 a 2 4" },
  { names := ["cher", "cherokee"],
    own := "3vk 2e 2 6 twy 28",
    shared := "lc 3 1 1 6 2 m 2 b 2" },
  { names := ["chrs", "chorasmian"],
    own := "1ho0 s" },
  { names := ["zyyy", "common"],
    own := "
      0 1t q 6 q 1b 1 f 1 5 n 1 v 1 ch 13 5 5 2 k 38 1 9 1 6 1 1 1 hp 1 6 1 e 1 3 1 w 1 4c 1 ec
      1 3l 2 yh 1 b9 4 82 1 167 3 1z 2 5n 2 1 1 y5 1 d 1 7 4 1 6 1 3 2 1 lh c 2 2f 1 b 3 b 1 f
      h y 1q 12 1 3 2 6 1 r 1 h 15 3 4 ii m b l ps 74 hg 2 3u e8 2m b6 l 1 1 1 p f 8 4 4 2j 2 3
      1 2i 2 43 g w 12 9 1 1c 1s v 29 1b 1 2g 4o 534 1s hkw y 2u 3 4l a 6s 1 4g 1 az 1 e 2 g5u
      2 5s a m z 1 j 1 4 43 1 1 w q 6 q b a 1 19 2 1s 7 1 7 a 5 76 3 4 19 3 9 28 d 1f 19 6c r
      10o4 4 318 71 3 c4 6 n f h 2n 38 1o 6u a 13 2 1q 3 h 8 2 7 u 4 1p 5x k c k c 2f 9 p 3r 2d
      1 1z 1 2 2 1 2 2 2 4 1 c 1 1 1 7 1 1t 1 4 2 8 1 7 1 s 1 4 1 5 1 1 3 7 1 9g 2 84 2 1e 41d
      1w 24 1p jm 18 4 2s c f 2 f 1 f 1 11 a 4u 1k q 1 2 d 18 4 9 7 2 e 6 4a rd 3 h 3 d 3 62 6
      c 4 1 f c 4 1k 8 a 6 14 8 u 2 c 4 2 e 9 13 9k 8 e 2 d 3 b 3 1l 1 1 4 g 2 c 4 a 7 43 1 2v
      gvly 1 u 2o",
    foreign := "
      53 1 ec 1 a 1 1 3 1 1 9 1 1 1 4a 1 if 1 e 1 3 1 w 1 mb 2 1hx 1 167 3 1z 2 5n 2 1 1 y5 1 d
      1 7 4 1 6 1 3 2 1 ms 1 v 1 a 1 2 1 2pl 1 o 2 a 1 4 1 1 1 bw g 1 3 2 1 1 a 1 d g 6 1 1 4 4
      2j 2 3 1 2i 2 43 g w 12 9 1 1c 14 1k 1d f c 1f 1 2g p a 5 2o v mpt 8 88 a 6s 1 4g 1 gha 2
      79 2 7u 5 a 1 19 2 9s 3 4 19 3 9 bl r 10o4 4 4ho i 63i 2" },
  { names := ["copt", "coptic", "qaac"],
    own := "rm e 80g 38 5 7",
    shared := "53 1 g8 1 3 2 1 1 30 2 8f5 1 1614 s" },
  { names := ["xsux", "cuneiform"],
    own := "1kw0 pm 2u 33 1 5 b 5g" },
  { names := ["cprt", "cypriot"],
    own := "1g5c 6 2 1 1 18 1 2 3 1 2 1",
    shared := "1erk 3 4 19 3 9" },
  { names := ["cpmn", "cyprominoan"],
    own := "1nyo 2r",
    shared := "1erk 2" },
  { names := ["cyrl", "cyrillic"],
    own := "sg 3p 2 4p 4ls b 4g 1 24 1 38n w nr4 2o ham 2 18n4 1q x 1",
    shared := "jg 1 1v 3 1 1 1 1 1 1 2 1 5 1 ab 2 50x 1 37u 1" },
  { names := ["dsrt", "deseret"],
    own := "1fcw 28" },
  { names := ["deva", "devanagari"],
    own := "1s0 29 4 f 2 q vhc w mio a",
    shared := "jg 1 1as 2 h 2 3u2 13 1 2 s6 1 qpr a" },
  { names := ["diak", "divesakuru"],
    own := "1ji8 7 2 1 2 8 1 2 1 u 1 2 2 c 9 a" },
  { names := ["dogr", "dogra"],
    own := "1jb4 1o",
    shared := "1us c vcw a" },
  { names := ["dupl", "duployan"],
    own := "2fpc 2z 5 d 3 9 7 a 2 4",
    shared := "53 1 gf 2 1 1 o 2 8if 1 26oz 4" },
  { names := ["egyp", "egyptianhieroglyphs"],
    own := "1o1s uu a 32z" },
  { names := ["elba", "elbasan"],
    own := "1fk0 14",
    shared := "53 1 gd 1" },
  { names := ["elym", "elymaic"],
    own := "1hpc n" },
  { names := ["ethi", "ethiopic"],
    own := "
      3k0 21 1 4 2 7 1 1 1 4 2 15 1 4 2 x 1 4 2 7 1 1 1 4 2 f 1 1l 1 4 2 1v 2 w 3 q 546 n 9 7 1
      7 1 7 1 7 1 7 1 7 1 7 1 7 opu 6 2 6 2 6 9 7 1 7 1qk1 7 1 4 1 2 1 f",
    shared := "lq 1" },
  { names := ["gara", "garay"],
    own := "1h6o 12 3 t 8 2",
    shared := "170 1 e 1 3 1" },
  { names := ["geor", "georgian"],
    own := "3a8 12 1 1 5 1 2 17 1 4 2a8 17 2 3 37k 12 1 1 5 1",
    shared := "53 1 y9 1 29d 1 31a 1 2qe 1" },
  { names := ["glag", "glagolitic"],
    own := "8ow 2o 2e1s 7 1 h 2 7 1 2 1 5",
    shared := "53 1 gb 1 1 1 am 1 2 1 75 1 29d 1 31a 1 2qw 1 nqj 1" },
  { names := ["goth", "gothic"],
    own := "1f74 r",
    shared := "53 1 gc 2 2 1 14 1" },
  { names := ["gran", "grantha"],
    own := "1ibk 4 1 8 2 2 2 m 1 7 1 2 1 5 2 9 2 2 2 3 2 1 6 1 5 7 2 7 3 5",
    shared := "1u9 2 h 2 hs e 3bw 1 1 2 u 3 3 2 s6 1 1buy 1 2hg 2 1 1" },
  { names := ["grek", "greek"],
    own := "
      og 4 1 3 2 4 1 1 4 1 1 1 1 3 1 1 1 k 1 1r e g 4yu 5 1e 5 4 5 2c 1 8w m 2 6 2 12 2 6 2 8 1
      1 1 1 1 1 1 v 2 1h 1 f 1 e 2 6 1 j 2 3 1 9 87 1 rb2 1 gyi 27 h 1 155r 1y",
    shared := "53 1 g8 2 2 1 1 1 1 1 a 1 1a 1 2 1 1a 1 56z 2 ij 1" },
  { names := ["gujr", "gujarati"],
    own := "22p 3 1 9 1 3 1 m 1 7 1 2 1 5 2 a 1 3 1 3 2 1 f 4 2 c 7 7",
    shared := "1u9 2 h 2 vd6 a" },
  { names := ["gong", "gunjalagondi"],
    own := "1kdc 6 1 2 1 11 1 2 1 6 7 a",
    shared := "53 1 1po 2" },
  { names := ["guru", "gurmukhi"],
    own := "1z5 3 1 6 4 2 2 m 1 7 1 2 1 2 1 2 2 1 1 5 4 2 2 3 3 1 7 4 1 1 7 h",
    shared := "1u9 2 h 2 vd6 a" },
  { names := ["gukh", "gurungkhema"],
    own := "1xq8 1m",
    shared := "1ut 1" },
  { names := ["hani", "han"],
    own := "
      96o q 1 2h c 5y 1b 1 1 1 p 9 e 4 qs 534 1s g74 hkw a6 2 2y n48 2 c 7 sg9 wyo w 3dq 2 4ge
      2 5rl f ha 1wi f2 15u 3t7 5 6ju",
    shared := "
      53 1 9bs g 1 3 2 1 1 a 1 d a 4 2 1 6 1 4 4 57 1 44 g w 12 9 1 1c 14 1k 1d f c 1f 1 2g p a
      5 2o v mpt 8 h8d 2 7u 5 15ve i 63i 2" },
  { names := ["hang", "hangul"],
    own := "3cw 74 5ym 2 75 2m 35 v 1t v nhd t hv 8mc c n 4 1d 7tw v 3 6 2 6 2 6 2 3",
    shared := "9hd 3 4 a 1 d g 1 6 1 5f 1 14jt 2 7u 5" },
  { names := ["rohg", "hanifirohingya"],
    own := "1h4w 14 8 a",
    shared := "170 1 e 1 3 1 w 1 43 1" },
  { names := ["hano", "hanunoo"],
    own := "4kg l",
    shared := "4l1 2" },
  { names := ["hatr", "hatran"],
    own := "1gbk j 1 2 5 5" },
  { names := ["hebr", "hebrew"],
    own := "13l 1j 8 r 4 6 1cfc q 1 5 1 1 1 2 1 2 1 a",
    shared := "lj 2" },
  { names := ["hira", "hiragana"],
    own := "9j5 2e 6 3 23q9 7z i 1 t 3 crx 1",
    shared := "9hd 3 4 a 1 d g 6 1 1 4 2 2j 4 3 1 2i 2 14js 2 7u 5 a 1 19 2" },
  { names := ["armi", "imperialaramaic"],
    own := "1g74 m 1 9" },
  { names := ["zinh", "inherited", "qaai"],
    own := "
      lc 34 7p 2 ck b q 1 kg 4 3ff 1a 2 c dg 3 1 d 1 7 4 1 6 1 3 2 5i 1s ek 2 5e x 309 4 2z 2
      14kl g g e r3 1 6a 1 38a 1 1138 1a 2 n f4 3 h 8 2 7 u 4 h45u 6o",
    foreign := "
      lc f 1 2 1 1 f 3 7 2 1 2 g 1 2 1 i 1 5 1 4 d 7p 2 ck b q 1 kg 2 3ul 3 1 d 1 7 4 1 6 1 3 2
      5i 2 1i 1 1 1 l1 1 309 4 2z 2 15j9 1 38a 1" },
  { names := ["phli", "inscriptionalpahlavi"],
    own := "1gtc j 5 8" },
  { names := ["prti", "inscriptionalparthian"],
    own := "1gsg m 2 8" },
  { names := ["java", "javanese"],
    own := "xhc 26 2 a 4 2",
    shared := "xjj 1" },
  { names := ["kthi", "kaithi"],
    own := "1hts 1v a 1",
    shared := "1uu a 79d 1 o3i a" },
  { names := ["knda", "kannada"],
    own := "2gw d 1 3 1 n 1 a 1 5 2 9 1 3 1 4 7 2 5 3 1 4 2 a 1 3",
    shared := "1u9 2 h 2 3u2 1 1 2 6 1 n 1 1 1 ri3 6" },
  { names := ["kana", "katakana"],
    own := "9lt 2i 2 3 6o g 5s 1b 1 2g 14b2 a 1 19 ytu 4 1 7 1 2 1 1 7z 3 1e 1 e 4",
    shared := "lh 1 t 1 8v1 3 4 a 1 d g 6 1 1 4 2 2j 4 3 1 2i 2 14js 2 7u 5 a 1 19 2" },
  { names := ["kawi"],
    own := "1kow h 1 15 3 t" },
  { names := ["kali", "kayahli"],
    own := "xds 1a 1 1",
    shared := "xf2 1" },
  { names := ["khar", "kharoshthi"],
    own := "1gjk 4 1 2 5 8 1 3 1 t 2 3 4 a 7 9" },
  { names := ["kits", "khitansmallscript"],
    own := "20o4 1 5cr d2 15 1" },
  { names := ["khmr", "khmer"],
    own := "4n4 2m 2 a 6 a di w" },
  { names := ["khoj", "khojki"],
    own := "1i4g i 1 1b",
    shared := "25i a v28 a" },
  { names := ["sind", "khudawadi"],
    own := "1i9c 1n 5 a",
    shared := "1us 2 vd6 a" },
  { names := ["krai", "kiratrai"],
    own := "205c 1m" },
  { names := ["laoo", "lao"],
    own := "2v5 2 1 1 1 5 1 o 1 1 1 n 2 5 1 1 1 7 1 a 2 4" },
  { names := ["latn", "latin"],
    own := "
      1t q 6 q 1b 1 f 1 5 n 1 v 1 ch 13 5 55n 12 6 1d 5 4 5 d 1 1y 1t 74 a9 1 d 1 g d 3x 2 6 1
      r 1 h 15 253 w o82 2u 3 2a k f mo 17 1 9 1 4 fpy 7 t6 q 6 q 1lx 6 1 16 1 9 16it v 6 6",
    shared := "
      53 1 ec 1 a 1 1 3 1 1 9 1 1 1 12 f 1 2 1 1 f 3 7 2 1 2 12 1 5 1 4 d 7p 2 y2 2 1ig 1 2kc 1
      fq 1 5c 1 2li 1 nvs 8 fa 1" },
  { names := ["limb", "limbu"],
    own := "4xs v 1 c 4 c 4 1 3 c",
    shared := "1ut 1" },
  { names := ["lina", "lineara"],
    own := "1fr4 8n 9 m a 8",
    shared := "1err 19" },
  { names := ["linb", "linearb"],
    own := "1ekg c 1 q 1 j 1 2 1 f 2 e y 3f",
    shared := "1erk 3 4 19 3 9" },
  { names := ["lyci", "lycian"],
    own := "1f28 t",
    shared := "6e2 1" },
  { names := ["lydi", "lydian"],
    own := "1gdc q 5 1",
    shared := "53 1 8zd 1" },
  { names := ["mahj", "mahajani"],
    own := "1hzk 13",
    shared := "53 1 1po c vcw a" },
  { names := ["mlym", "malayalam"],
    own := "2kg d 1 3 1 1f 1 3 1 6 4 g 2 q",
    shared := "1u9 2 h 2 3uc 1 n 1 ri5 3" },
  { names := ["mand", "mandaic"],
    own := "1mo s 2 1",
    shared := "18g 1" },
  { names := ["mani", "manichaean"],
    own := "1gow 13 4 c",
    shared := "18g 1" },
  { names := ["marc", "marchen"],
    own := "1k6o w 2 m 1 e" },
  { names := ["mend", "mendekikakui"],
    own := "2oe8 5h 2 g" },
  { names := ["merc", "meroiticcursive"],
    own := "1ggw o 4 k 2 1a" },
  { names := ["mero", "meroitichieroglyphs"],
    own := "1gg0 w",
    shared := "6e5 1" },
  { names := ["hmnp", "nyiakengpuachuehmong"],
    own := "2n0g 19 3 e 2 a 4 2" },
  { names := ["ital", "olditalic"],
    own := "1f5s 10 9 3" },
  { names := ["hmng", "pahawhhmong"],
    own := "1zpc 1y a a 1 7 1 l 5 j" },
  { names := ["lepc", "lepcha"],
    own := "5j4 1k 3 f 3 3" },
  { names := ["lisu"],
    own := "wk0 1c o8g 1",
    shared := "jg 1 g 1 8xo 2" },
  { names := ["maka", "makasar"],
    own := "1ko0 p" },
  { names := ["gonm", "masaramgondi"],
    own := "1kao 7 1 2 1 18 3 1 1 2 1 9 8 a",
    shared := "1us 2" },
  { names := ["medf", "medefaidrin"],
    own := "20cg 2j" },
  { names := ["mtei", "meeteimayek"],
    own := "xr4 n 5l 1a 2 a" },
  { names := ["plrd", "miao"],
    own := "20hs 23 4 1l 7 h" },
  { names := ["modi"],
    own := "1iww 1x b a",
    shared := "x80 a" },
  { names := ["mong", "mongolian"],
    own := "4qo 2 2 1 1 k 6 2h 7 17 1e45 d",
    shared := "4qq 2 1 1 1m1 1 34h 2 5 4" },
  { names := ["mroo", "mro"],
    own := "1zk0 v 1 a 4 2" },
  { names := ["mult", "multani"],
    own := "1i80 7 1 1 1 4 1 f 1 b",
    shared := "21y a" },
  { names := ["mymr", "myanmar"],
    own := "35s 4g u9s v 2p w le8 k",
    shared := "xf2 1" },
  { names := ["nbat", "nabataean"],
    own := "1g8w v 8 9" },
  { names := ["nagm", "nagmundari"],
    own := "2nrk 16" },
  { names := ["nand", "nandinagari"],
    own := "1jmo 8 2 1a 2 b",
    shared := "1u9 1 i 2 ow a 35l 1 8 1 7 1 rhx 6" },
  { names := ["talu", "newtailue"],
    own := "51c 18 4 q 6 b 3 2" },
  { names := ["newa"],
    own := "1iio 2k 1 5",
    shared := "1u9 2 3uq 1 1 2 9 1 6 1 1 1 1 1" },
  { names := ["nkoo", "nko"],
    own := "1j4 1n 2 3",
    shared := "170 1 e 1 3 1 1cta 2" },
  { names := ["nshu", "nushu"],
    own := "20o1 1 cy6 b0" },
  { names := ["ogam", "ogham"],
    own := "4g0 t" },
  { names := ["olck", "olchiki"],
    own := "5lc 1c" },
  { names := ["onao", "olonal"],
    own := "2nyo 17 4 1",
    shared := "1us 2" },
  { names := ["hung", "oldhungarian"],
    own := "1h1c 1f d 1f 7 6",
    shared := "6e2 1 2 1 2qb 1 f 1" },
  { names := ["narb", "oldnortharabian"],
    own := "1gn4 w" },
  { names := ["perm", "oldpermic"],
    own := "1f80 17",
    shared := "53 1 g8 1 5 3 a 1 a7 1" },
  { names := ["xpeo", "oldpersian"],
    own := "1fa8 10 4 e" },
  { names := ["sogo", "oldsogdian"],
    own := "1hj4 14" },
  { names := ["sarb", "oldsoutharabian"],
    own := "1gm8 w" },
  { names := ["orkh", "oldturkic"],
    own := "1gxs 21",
    shared := "6e2 1 2qd 1" },
  { names := ["ougr", "olduyghur"],
    own := "1hm8 q",
    shared := "18g 1 1fht 1" },
  { names := ["orya", "oriya"],
    own := "269 3 1 8 2 2 2 m 1 7 1 2 1 5 2 9 2 2 2 3 7 3 4 2 1 5 2 i",
    shared := "1u9 2 h 2 3uc 1 n 1" },
  { names := ["osge", "osage"],
    own := "1fhs 10 4 10",
    shared := "ld 1 2 1 6 1 24 1" },
  { names := ["osma", "osmanya"],
    own := "1fgg u 2 a" },
  { names := ["palm", "palmyrene"],
    own := "1g80 w" },
  { names := ["pauc", "paucinhau"],
    own := "1juo 1l" },
  { names := ["phag", "phagspa"],
    own := "x8g 1k",
    shared := "4qq 2 1 1 1m1 1 34i 1" },
  { names := ["phnx", "phoenician"],
    own := "1gcg s 3 1" },
  { names := ["phlp", "psalterpahlavi"],
    own := "1gu8 i 7 4 c 7",
    shared := "18g 1" },
  { names := ["rjng", "rejang"],
    own := "xf4 10 b 1" },
  { names := ["runr", "runic"],
    own := "4gw 23 3 b",
    shared := "4iz 3" },
  { names := ["samr", "samaritan"],
    own := "1kw 1a 2 f",
    shared := "94h 1" },
  { names := ["saur", "saurashtra"],
    own := "xa8 1y 8 c" },
  { names := ["shrd", "sharada"],
    own := "1i0w 2o 1vk 8",
    shared := "1u9 1 3ut 1 1 1 2 2 2 1 9 1 2 1 ria 6 2 1" },
  { names := ["shaw", "shavian"],
    own := "1ff4 1c",
    shared := "53 1" },
  { names := ["sidd", "siddham"],
    own := "1itc 1i 2 12" },
  { names := ["sidt", "sidetic"],
    own := "1ge8 q" },
  { names := ["sgnw", "signwriting"],
    own := "2l8g i4 f 5 1 f" },
  { names := ["sinh", "sinhala"],
    own := "2o1 3 1 i 3 o 1 9 1 1 2 7 3 1 4 6 1 1 1 8 6 a 2 3 1fcc k",
    shared := "1us 2 3v0 1" },
  { names := ["sogd", "sogdian"],
    own := "1hkg 16",
    shared := "18g 1" },
  { names := ["sora", "sorasompeng"],
    own := "1hw0 p 7 a" },
  { names := ["soyo", "soyombo"],
    own := "1jrk 2b" },
  { names := ["sund", "sundanese"],
    own := "5fk 1s 74 8" },
  { names := ["sunu", "sunuwar"],
    own := "1k1s y e a",
    shared := "lc 2 1 1 9 1 2 1 s 1 3 1" },
  { names := ["sylo", "sylotinagri"],
    own := "x6o 19",
    shared := "1us 2 3k a" },
  { names := ["syrc", "syriac"],
    own := "1ds e 1 1o 2 3 7k b",
    shared := "lf 2 2 2 1 1 o 3 7 2 1 2 ka 1 e 2 2 1 w 1 a b q 1 4nb 1 1 1" },
  { names := ["tglg", "tagalog"],
    own := "4jk m 9 1",
    shared := "4l1 2" },
  { names := ["tagb", "tagbanwa"],
    own := "4m8 d 1 3 1 2",
    shared := "4l1 2" },
  { names := ["tale", "taile"],
    own := "500 u 2 5",
    shared := "lc 2 5 2 3 1 2lv a" },
  { names := ["lana", "taitham"],
    own := "55s 1r 1 t 2 b 6 a 6 e" },
  { names := ["tavt", "taiviet"],
    own := "xog 1v o 5" },
  { names := ["tayo", "taiyo"],
    own := "2o5c v 1 m 8 2" },
  { names := ["takr", "takri"],
    own := "1j0g 1m 6 a",
    shared := "1us 2 vd6 a" },
  { names := ["taml", "tamil"],
    own := "29u 2 1 6 3 3 1 4 3 2 1 1 1 2 3 2 3 3 3 c 4 5 3 3 1 4 2 1 6 1 e l 1ih1 1e d 1",
    shared := "1u9 2 h 2 3uc 1 ro8 1 ky5 1 1 1 1j 2" },
  { names := ["tnsa", "tangsa"],
    own := "1zlc 27 1 a" },
  { names := ["tang", "tangut"],
    own := "20o0 1 v 5c0 e8 v 2p 37",
    shared := "9gw g dr 1" },
  { names := ["telu", "telugu"],
    own := "2dc d 1 3 1 n 1 g 2 9 1 3 1 4 7 2 1 3 1 2 2 4 2 a 7 9",
    shared := "1u9 2 h 2 3u7 2 1 1 1 1 n 1" },
  { names := ["thaa", "thaana"],
    own := "1hc 1e",
    shared := "170 1 e 2 2 1 1s a 1cw8 1 a 1" },
  { names := ["thai"],
    own := "2rl 1m 5 s",
    shared := "jg 1 q 1 17 1 19 1" },
  { names := ["tibt", "tibetan"],
    own := "2yo 20 1 10 4 13 1 10 1 f 1 7 4 2",
    shared := "9hk 4" },
  { names := ["tfng", "tifinagh"],
    own := "8xc 1k 7 2 e 1",
    shared := "le 1 1 1 1 4 p 1" },
  { names := ["tirh", "tirhuta"],
    own := "1im8 20 8 a",
    shared := "1u9 2 h 2 3u7 1 c 1 f 1 ri5 a" },
  { names := ["todr", "todhri"],
    own := "1fpc 1g",
    shared := "ld 1 2 1 2 1 9 1 1 1 22 1" },
  { names := ["tols", "tolongsiki"],
    own := "1kfk 18 4 a" },
  { names := ["toto"],
    own := "2nbk v",
    shared := "jg 1" },
  { names := ["tutg", "tulutigalari"],
    own := "1if4 a 1 1 2 1 1 12 1 a 1 1 2 1 1 4 1 a 1 2 8 2",
    shared := "2jq a 35u 1 1 1 ri3 6 57 1" },
  { names := ["ugar", "ugaritic"],
    own := "1f9c u 1 1" },
  { names := ["vaii", "vai"],
    own := "wlc 8c" },
  { names := ["vith", "vithkuqi"],
    own := "1fn4 b 1 f 1 7 1 2 1 b 1 f 1 7 1 2" },
  { names := ["wcho", "wancho"],
    own := "2ncw 1m 5 1" },
  { names := ["wara", "warangciti"],
    own := "1jfk 2b c 1" },
  { names := ["yezi", "yezidi"],
    own := "1hfk 16 1 3 2 2",
    shared := "170 1 e 1 3 1 1s a" },
  { names := ["yiii", "yi"],
    own := "vls wd 3 1j",
    shared := "9hd 2 5 a 2 8 67 1 14rp 5" },
  { names := ["zanb", "zanabazarsquare"],
    own := "1jpc 20" },
  { names := ["hrkt", "katakanaorhiragana"], own := "" }]

end Script
end PathQuery.Unicode
