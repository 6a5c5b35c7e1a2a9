import Conform.Text.Unicode.Edition

/-!
# Scripts

Every character belongs to one script, or to none in particular; some are used with several. A
script is known by a code of four letters and by a name.

## Main definitions

- `Unicode.Script.set` — the characters of a script
- `Unicode.Script.extendedSet` — the characters that are used with a script
- `Unicode.Script.ofName?` — the script that a name names
-/

namespace Conform.Unicode.Script

/-- The scripts of all code points. -/
def table : Partition := .ofRuns [
    "Zyyy:41 Latn:1A Zyyy:6 Latn:1A Zyyy:2F Latn Zyyy:F Latn Zyyy:5 Latn:17 Zyyy Latn:1F Zyyy",
    "Latn:1C1 Zyyy:27 Latn:5 Zyyy:5 Bopo:2 Zyyy:14 Zinh:70 Grek:4 Zyyy Grek:3 Zzzz:2 Grek:4",
    "Zyyy Grek Zzzz:4 Grek Zyyy Grek Zyyy Grek:3 Zzzz Grek Zzzz Grek:14 Zzzz Grek:3F Copt:E",
    "Grek:10 Cyrl:85 Zinh:2 Cyrl:A9 Zzzz Armn:26 Zzzz:2 Armn:32 Zzzz:2 Armn:3 Zzzz Hebr:37",
    "Zzzz:8 Hebr:1B Zzzz:4 Hebr:6 Zzzz:B Arab:5 Zyyy Arab:6 Zyyy Arab:E Zyyy Arab:3 Zyyy",
    "Arab:20 Zyyy Arab:A Zinh:B Arab:1A Zinh Arab:6C Zyyy Arab:22 Syrc:E Zzzz Syrc:3C Zzzz:2",
    "Syrc:3 Arab:30 Thaa:32 Zzzz:E Nkoo:3B Zzzz:2 Nkoo:3 Samr:2E Zzzz:2 Samr:F Zzzz Mand:1C",
    "Zzzz:2 Mand Zzzz Syrc:B Zzzz:5 Arab:22 Zzzz:5 Arab:4B Zyyy Arab:1D Deva:51 Zinh:4 Deva:F",
    "Zyyy:2 Deva:1A Beng:4 Zzzz Beng:8 Zzzz:2 Beng:2 Zzzz:2 Beng:16 Zzzz Beng:7 Zzzz Beng",
    "Zzzz:3 Beng:4 Zzzz:2 Beng:9 Zzzz:2 Beng:2 Zzzz:2 Beng:4 Zzzz:8 Beng Zzzz:4 Beng:2 Zzzz",
    "Beng:5 Zzzz:2 Beng:19 Zzzz:2 Guru:3 Zzzz Guru:6 Zzzz:4 Guru:2 Zzzz:2 Guru:16 Zzzz Guru:7",
    "Zzzz Guru:2 Zzzz Guru:2 Zzzz Guru:2 Zzzz:2 Guru Zzzz Guru:5 Zzzz:4 Guru:2 Zzzz:2 Guru:3",
    "Zzzz:3 Guru Zzzz:7 Guru:4 Zzzz Guru Zzzz:7 Guru:11 Zzzz:A Gujr:3 Zzzz Gujr:9 Zzzz Gujr:3",
    "Zzzz Gujr:16 Zzzz Gujr:7 Zzzz Gujr:2 Zzzz Gujr:5 Zzzz:2 Gujr:A Zzzz Gujr:3 Zzzz Gujr:3",
    "Zzzz:2 Gujr Zzzz:F Gujr:4 Zzzz:2 Gujr:C Zzzz:7 Gujr:7 Zzzz Orya:3 Zzzz Orya:8 Zzzz:2",
    "Orya:2 Zzzz:2 Orya:16 Zzzz Orya:7 Zzzz Orya:2 Zzzz Orya:5 Zzzz:2 Orya:9 Zzzz:2 Orya:2",
    "Zzzz:2 Orya:3 Zzzz:7 Orya:3 Zzzz:4 Orya:2 Zzzz Orya:5 Zzzz:2 Orya:12 Zzzz:A Taml:2 Zzzz",
    "Taml:6 Zzzz:3 Taml:3 Zzzz Taml:4 Zzzz:3 Taml:2 Zzzz Taml Zzzz Taml:2 Zzzz:3 Taml:2 Zzzz:3",
    "Taml:3 Zzzz:3 Taml:C Zzzz:4 Taml:5 Zzzz:3 Taml:3 Zzzz Taml:4 Zzzz:2 Taml Zzzz:6 Taml",
    "Zzzz:E Taml:15 Zzzz:5 Telu:D Zzzz Telu:3 Zzzz Telu:17 Zzzz Telu:10 Zzzz:2 Telu:9 Zzzz",
    "Telu:3 Zzzz Telu:4 Zzzz:7 Telu:2 Zzzz Telu:3 Zzzz Telu:2 Zzzz:2 Telu:4 Zzzz:2 Telu:A",
    "Zzzz:7 Telu:9 Knda:D Zzzz Knda:3 Zzzz Knda:17 Zzzz Knda:A Zzzz Knda:5 Zzzz:2 Knda:9 Zzzz",
    "Knda:3 Zzzz Knda:4 Zzzz:7 Knda:2 Zzzz:5 Knda:3 Zzzz Knda:4 Zzzz:2 Knda:A Zzzz Knda:3",
    "Zzzz:C Mlym:D Zzzz Mlym:3 Zzzz Mlym:33 Zzzz Mlym:3 Zzzz Mlym:6 Zzzz:4 Mlym:10 Zzzz:2",
    "Mlym:1A Zzzz Sinh:3 Zzzz Sinh:12 Zzzz:3 Sinh:18 Zzzz Sinh:9 Zzzz Sinh Zzzz:2 Sinh:7",
    "Zzzz:3 Sinh Zzzz:4 Sinh:6 Zzzz Sinh Zzzz Sinh:8 Zzzz:6 Sinh:A Zzzz:2 Sinh:3 Zzzz:C",
    "Thai:3A Zzzz:4 Zyyy Thai:1C Zzzz:25 Laoo:2 Zzzz Laoo Zzzz Laoo:5 Zzzz Laoo:18 Zzzz Laoo",
    "Zzzz Laoo:17 Zzzz:2 Laoo:5 Zzzz Laoo Zzzz Laoo:7 Zzzz Laoo:A Zzzz:2 Laoo:4 Zzzz:20",
    "Tibt:48 Zzzz Tibt:24 Zzzz:4 Tibt:27 Zzzz Tibt:24 Zzzz Tibt:F Zzzz Tibt:7 Zyyy:4 Tibt:2",
    "Zzzz:25 Mymr:A0 Geor:26 Zzzz Geor Zzzz:5 Geor Zzzz:2 Geor:2B Zyyy Geor:4 Hang:100 Ethi:49",
    "Zzzz Ethi:4 Zzzz:2 Ethi:7 Zzzz Ethi Zzzz Ethi:4 Zzzz:2 Ethi:29 Zzzz Ethi:4 Zzzz:2 Ethi:21",
    "Zzzz Ethi:4 Zzzz:2 Ethi:7 Zzzz Ethi Zzzz Ethi:4 Zzzz:2 Ethi:F Zzzz Ethi:39 Zzzz Ethi:4",
    "Zzzz:2 Ethi:43 Zzzz:2 Ethi:20 Zzzz:3 Ethi:1A Zzzz:6 Cher:56 Zzzz:2 Cher:6 Zzzz:2 Cans:280",
    "Ogam:1D Zzzz:3 Runr:4B Zyyy:3 Runr:B Zzzz:7 Tglg:16 Zzzz:9 Tglg Hano:15 Zyyy:2 Zzzz:9",
    "Buhd:14 Zzzz:C Tagb:D Zzzz Tagb:3 Zzzz Tagb:2 Zzzz:C Khmr:5E Zzzz:2 Khmr:A Zzzz:6 Khmr:A",
    "Zzzz:6 Mong:2 Zyyy:2 Mong Zyyy Mong:14 Zzzz:6 Mong:59 Zzzz:7 Mong:2B Zzzz:5 Cans:46",
    "Zzzz:A Limb:1F Zzzz Limb:C Zzzz:4 Limb:C Zzzz:4 Limb Zzzz:3 Limb:C Tale:1E Zzzz:2 Tale:5",
    "Zzzz:B Talu:2C Zzzz:4 Talu:1A Zzzz:6 Talu:B Zzzz:3 Talu:2 Khmr:20 Bugi:1C Zzzz:2 Bugi:2",
    "Lana:3F Zzzz Lana:1D Zzzz:2 Lana:B Zzzz:6 Lana:A Zzzz:6 Lana:E Zzzz:2 Zinh:2E Zzzz:2",
    "Zinh:C Zzzz:14 Bali:4D Zzzz Bali:32 Sund:40 Batk:34 Zzzz:8 Batk:4 Lepc:38 Zzzz:3 Lepc:F",
    "Zzzz:3 Lepc:3 Olck:30 Cyrl:B Zzzz:5 Geor:2B Zzzz:2 Geor:3 Sund:8 Zzzz:8 Zinh:3 Zyyy",
    "Zinh:D Zyyy Zinh:7 Zyyy:4 Zinh Zyyy:6 Zinh Zyyy:3 Zinh:2 Zyyy Zzzz:5 Latn:26 Grek:5 Cyrl",
    "Latn:31 Grek:5 Latn:4 Grek:5 Latn:D Cyrl Latn:46 Grek Zinh:40 Latn:100 Grek:16 Zzzz:2",
    "Grek:6 Zzzz:2 Grek:26 Zzzz:2 Grek:6 Zzzz:2 Grek:8 Zzzz Grek Zzzz Grek Zzzz Grek Zzzz",
    "Grek:1F Zzzz:2 Grek:35 Zzzz Grek:F Zzzz Grek:E Zzzz:2 Grek:6 Zzzz Grek:13 Zzzz:2 Grek:3",
    "Zzzz Grek:9 Zzzz Zyyy:C Zinh:2 Zyyy:57 Zzzz Zyyy:B Latn Zzzz:2 Zyyy:B Latn Zyyy:F Zzzz",
    "Latn:D Zzzz:3 Zyyy:22 Zzzz:E Zinh:21 Zzzz:F Zyyy:26 Grek Zyyy:3 Latn:2 Zyyy:6 Latn",
    "Zyyy:1B Latn Zyyy:11 Latn:29 Zyyy:3 Zzzz:4 Zyyy:29A Zzzz:16 Zyyy:B Zzzz:15 Zyyy:3A0",
    "Brai:100 Zyyy:274 Zzzz:2 Zyyy:8A Glag:60 Latn:20 Copt:74 Zzzz:5 Copt:7 Geor:26 Zzzz Geor",
    "Zzzz:5 Geor Zzzz:2 Tfng:38 Zzzz:7 Tfng:2 Zzzz:E Tfng Ethi:17 Zzzz:9 Ethi:7 Zzzz Ethi:7",
    "Zzzz Ethi:7 Zzzz Ethi:7 Zzzz Ethi:7 Zzzz Ethi:7 Zzzz Ethi:7 Zzzz Ethi:7 Zzzz Cyrl:20",
    "Zyyy:5E Zzzz:22 Hani:1A Zzzz Hani:59 Zzzz:C Hani:D6 Zzzz:1A Zyyy:15 Hani Zyyy Hani",
    "Zyyy:19 Hani:9 Zinh:4 Hang:2 Zyyy:8 Hani:4 Zyyy:4 Zzzz Hira:56 Zzzz:2 Zinh:2 Zyyy:2",
    "Hira:3 Zyyy Kana:5A Zyyy:2 Kana:3 Zzzz:5 Bopo:2B Zzzz Hang:5E Zzzz Zyyy:10 Bopo:20",
    "Zyyy:26 Zzzz:9 Zyyy Kana:10 Hang:1F Zzzz Zyyy:40 Hang:1F Zyyy:51 Kana:2F Zyyy Kana:58",
    "Zyyy:A8 Hani:19C0 Zyyy:40 Hani:5200 Yiii:48D Zzzz:3 Yiii:37 Zzzz:9 Lisu:30 Vaii:12C",
    "Zzzz:14 Cyrl:60 Bamu:58 Zzzz:8 Zyyy:22 Latn:66 Zyyy:3 Latn:52 Zzzz:14 Latn:F Sylo:2D",
    "Zzzz:3 Zyyy:A Zzzz:6 Phag:38 Zzzz:8 Saur:46 Zzzz:8 Saur:C Zzzz:6 Deva:20 Kali:2E Zyyy",
    "Kali Rjng:24 Zzzz:B Rjng Hang:1D Zzzz:3 Java:4E Zzzz Zyyy Java:A Zzzz:4 Java:2 Mymr:1F",
    "Zzzz Cham:37 Zzzz:9 Cham:E Zzzz:2 Cham:A Zzzz:2 Cham:4 Mymr:20 Tavt:43 Zzzz:18 Tavt:5",
    "Mtei:17 Zzzz:A Ethi:6 Zzzz:2 Ethi:6 Zzzz:2 Ethi:6 Zzzz:9 Ethi:7 Zzzz Ethi:7 Zzzz Latn:2B",
    "Zyyy Latn:9 Grek Latn:4 Zyyy:2 Zzzz:4 Cher:50 Mtei:2E Zzzz:2 Mtei:A Zzzz:6 Hang:2BA4",
    "Zzzz:C Hang:17 Zzzz:4 Hang:31 Zzzz:2104 Hani:16E Zzzz:2 Hani:6A Zzzz:26 Latn:7 Zzzz:C",
    "Armn:5 Zzzz:5 Hebr:1A Zzzz Hebr:5 Zzzz Hebr Zzzz Hebr:2 Zzzz Hebr:2 Zzzz Hebr:A Arab:1EE",
    "Zyyy:2 Arab:90 Zzzz:20 Arab:10 Zinh:10 Zyyy:A Zzzz:6 Zinh:E Cyrl:2 Zyyy:23 Zzzz Zyyy:13",
    "Zzzz Zyyy:4 Zzzz:4 Arab:5 Zzzz Arab:87 Zzzz:2 Zyyy Zzzz Zyyy:20 Latn:1A Zyyy:6 Latn:1A",
    "Zyyy:B Kana:A Zyyy Kana:2D Zyyy:2 Hang:1F Zzzz:3 Hang:6 Zzzz:2 Hang:6 Zzzz:2 Hang:6",
    "Zzzz:2 Hang:3 Zzzz:3 Zyyy:7 Zzzz Zyyy:7 Zzzz:A Zyyy:5 Zzzz:2 Linb:C Zzzz Linb:1A Zzzz",
    "Linb:13 Zzzz Linb:2 Zzzz Linb:F Zzzz:2 Linb:E Zzzz:22 Linb:7B Zzzz:5 Zyyy:3 Zzzz:4",
    "Zyyy:2D Zzzz:3 Zyyy:9 Grek:4F Zzzz Zyyy:D Zzzz:3 Grek Zzzz:2F Zyyy:2D Zinh Zzzz:82",
    "Lyci:1D Zzzz:3 Cari:31 Zzzz:F Zinh Zyyy:1B Zzzz:4 Ital:24 Zzzz:9 Ital:3 Goth:1B Zzzz:5",
    "Perm:2B Zzzz:5 Ugar:1E Zzzz Ugar Xpeo:24 Zzzz:4 Xpeo:E Zzzz:2A Dsrt:50 Shaw:30 Osma:1E",
    "Zzzz:2 Osma:A Zzzz:6 Osge:24 Zzzz:4 Osge:24 Zzzz:4 Elba:28 Zzzz:8 Aghb:34 Zzzz:B Aghb",
    "Vith:B Zzzz Vith:F Zzzz Vith:7 Zzzz Vith:2 Zzzz Vith:B Zzzz Vith:F Zzzz Vith:7 Zzzz",
    "Vith:2 Zzzz:3 Todr:34 Zzzz:C Lina:137 Zzzz:9 Lina:16 Zzzz:A Lina:8 Zzzz:18 Latn:6 Zzzz",
    "Latn:2A Zzzz Latn:9 Zzzz:45 Cprt:6 Zzzz:2 Cprt Zzzz Cprt:2C Zzzz Cprt:2 Zzzz:3 Cprt",
    "Zzzz:2 Cprt Armi:16 Zzzz Armi:9 Palm:20 Nbat:1F Zzzz:8 Nbat:9 Zzzz:30 Hatr:13 Zzzz Hatr:2",
    "Zzzz:5 Hatr:5 Phnx:1C Zzzz:3 Phnx Lydi:1A Zzzz:5 Lydi Sidt:1A Zzzz:26 Mero:20 Merc:18",
    "Zzzz:4 Merc:14 Zzzz:2 Merc:2E Khar:4 Zzzz Khar:2 Zzzz:5 Khar:8 Zzzz Khar:3 Zzzz Khar:1D",
    "Zzzz:2 Khar:3 Zzzz:4 Khar:A Zzzz:7 Khar:9 Zzzz:7 Sarb:20 Narb:20 Zzzz:20 Mani:27 Zzzz:4",
    "Mani:C Zzzz:9 Avst:36 Zzzz:3 Avst:7 Prti:16 Zzzz:2 Prti:8 Phli:13 Zzzz:5 Phli:8 Phlp:12",
    "Zzzz:7 Phlp:4 Zzzz:C Phlp:7 Zzzz:50 Orkh:49 Zzzz:37 Hung:33 Zzzz:D Hung:33 Zzzz:7 Hung:6",
    "Rohg:28 Zzzz:8 Rohg:A Zzzz:6 Gara:26 Zzzz:3 Gara:1D Zzzz:8 Gara:2 Zzzz:D0 Arab:1F Zzzz",
    "Yezi:2A Zzzz Yezi:3 Zzzz:2 Yezi:2 Zzzz:10 Arab:6 Zzzz:8 Arab:9 Zzzz:21 Arab:6 Sogo:28",
    "Zzzz:8 Sogd:2A Zzzz:16 Ougr:1A Zzzz:26 Chrs:1C Zzzz:14 Elym:17 Zzzz:9 Brah:4E Zzzz:4",
    "Brah:24 Zzzz:9 Brah Kthi:43 Zzzz:A Kthi Zzzz:2 Sora:19 Zzzz:7 Sora:A Zzzz:6 Cakm:35 Zzzz",
    "Cakm:12 Zzzz:8 Mahj:27 Zzzz:9 Shrd:60 Zzzz Sinh:14 Zzzz:B Khoj:12 Zzzz Khoj:2F Zzzz:3E",
    "Mult:7 Zzzz Mult Zzzz Mult:4 Zzzz Mult:F Zzzz Mult:B Zzzz:6 Sind:3B Zzzz:5 Sind:A Zzzz:6",
    "Gran:4 Zzzz Gran:8 Zzzz:2 Gran:2 Zzzz:2 Gran:16 Zzzz Gran:7 Zzzz Gran:2 Zzzz Gran:5 Zzzz",
    "Zinh Gran:9 Zzzz:2 Gran:2 Zzzz:2 Gran:3 Zzzz:2 Gran Zzzz:6 Gran Zzzz:5 Gran:7 Zzzz:2",
    "Gran:7 Zzzz:3 Gran:5 Zzzz:B Tutg:A Zzzz Tutg Zzzz:2 Tutg Zzzz Tutg:26 Zzzz Tutg:A Zzzz",
    "Tutg Zzzz:2 Tutg Zzzz Tutg:4 Zzzz Tutg:A Zzzz Tutg:2 Zzzz:8 Tutg:2 Zzzz:1D Newa:5C Zzzz",
    "Newa:5 Zzzz:1E Tirh:48 Zzzz:8 Tirh:A Zzzz:A6 Sidd:36 Zzzz:2 Sidd:26 Zzzz:22 Modi:45",
    "Zzzz:B Modi:A Zzzz:6 Mong:D Zzzz:13 Takr:3A Zzzz:6 Takr:A Zzzz:6 Mymr:14 Zzzz:1C Ahom:1B",
    "Zzzz:2 Ahom:F Zzzz:4 Ahom:17 Zzzz:B9 Dogr:3C Zzzz:64 Wara:53 Zzzz:C Wara Diak:7 Zzzz:2",
    "Diak Zzzz:2 Diak:8 Zzzz Diak:2 Zzzz Diak:1E Zzzz Diak:2 Zzzz:2 Diak:C Zzzz:9 Diak:A",
    "Zzzz:46 Nand:8 Zzzz:2 Nand:2E Zzzz:2 Nand:B Zzzz:1B Zanb:48 Zzzz:8 Soyo:53 Zzzz:D Cans:10",
    "Pauc:39 Zzzz:7 Deva:A Zzzz:56 Shrd:8 Zzzz:58 Sunu:22 Zzzz:E Sunu:A Zzzz:6 Bhks:9 Zzzz",
    "Bhks:2D Zzzz Bhks:E Zzzz:A Bhks:1D Zzzz:3 Marc:20 Zzzz:2 Marc:16 Zzzz Marc:E Zzzz:49",
    "Gonm:7 Zzzz Gonm:2 Zzzz Gonm:2C Zzzz:3 Gonm Zzzz Gonm:2 Zzzz Gonm:9 Zzzz:8 Gonm:A Zzzz:6",
    "Gong:6 Zzzz Gong:2 Zzzz Gong:25 Zzzz Gong:2 Zzzz Gong:6 Zzzz:7 Gong:A Zzzz:6 Tols:2C",
    "Zzzz:4 Tols:A Zzzz:F6 Maka:19 Zzzz:7 Kawi:11 Zzzz Kawi:29 Zzzz:3 Kawi:1D Zzzz:55 Lisu",
    "Zzzz:F Taml:32 Zzzz:D Taml Xsux:39A Zzzz:66 Xsux:6F Zzzz Xsux:5 Zzzz:B Xsux:C4 Zzzz:A4C",
    "Cpmn:63 Zzzz:D Egyp:456 Zzzz:A Egyp:F9B Zzzz:5 Hluw:247 Zzzz:1AB9 Gukh:3A Zzzz:6C6",
    "Bamu:239 Zzzz:7 Mroo:1F Zzzz Mroo:A Zzzz:4 Mroo:2 Tnsa:4F Zzzz Tnsa:A Zzzz:6 Bass:1E",
    "Zzzz:2 Bass:6 Zzzz:A Hmng:46 Zzzz:A Hmng:A Zzzz Hmng:7 Zzzz Hmng:15 Zzzz:5 Hmng:13",
    "Zzzz:1B0 Krai:3A Zzzz:C6 Medf:5B Zzzz:5 Berf:19 Zzzz:2 Berf:19 Zzzz:2C Plrd:4B Zzzz:4",
    "Plrd:39 Zzzz:7 Plrd:11 Zzzz:40 Tang Nshu Hani:2 Kits Zzzz:B Hani:7 Zzzz:9 Tang:1B00",
    "Kits:1D6 Zzzz:29 Kits Tang:1F Zzzz:61 Tang:73 Zzzz:21FD Kana:4 Zzzz Kana:7 Zzzz Kana:2",
    "Zzzz Kana Hira:11F Kana:3 Zzzz:F Hira Zzzz:1D Hira:3 Zzzz:2 Kana Zzzz:E Kana:4 Zzzz:8",
    "Nshu:18C Zzzz:904 Dupl:6B Zzzz:5 Dupl:D Zzzz:3 Dupl:9 Zzzz:7 Dupl:A Zzzz:2 Dupl:4 Zyyy:4",
    "Zzzz:F5C Zyyy:FD Zzzz:3 Zyyy:1B4 Zzzz:6 Zyyy:17 Zzzz:F Zyyy:11 Zzzz:F Zinh:2E Zzzz:2",
    "Zinh:17 Zzzz:9 Zyyy:74 Zzzz:3C Zyyy:F6 Zzzz:A Zyyy:27 Zzzz:2 Zyyy:3E Zinh:3 Zyyy:11",
    "Zinh:8 Zyyy:2 Zinh:7 Zyyy:1E Zinh:4 Zyyy:3D Zzzz:15 Grek:46 Zzzz:7A Zyyy:14 Zzzz:C",
    "Zyyy:14 Zzzz:C Zyyy:57 Zzzz:9 Zyyy:19 Zzzz:87 Zyyy:55 Zzzz Zyyy:47 Zzzz Zyyy:2 Zzzz:2",
    "Zyyy Zzzz:2 Zyyy:2 Zzzz:2 Zyyy:4 Zzzz Zyyy:C Zzzz Zyyy Zzzz Zyyy:7 Zzzz Zyyy:41 Zzzz",
    "Zyyy:4 Zzzz:2 Zyyy:8 Zzzz Zyyy:7 Zzzz Zyyy:1C Zzzz Zyyy:4 Zzzz Zyyy:5 Zzzz Zyyy Zzzz:3",
    "Zyyy:7 Zzzz Zyyy:154 Zzzz:2 Zyyy:124 Zzzz:2 Zyyy:32 Sgnw:28C Zzzz:F Sgnw:5 Zzzz Sgnw:F",
    "Zzzz:450 Latn:1F Zzzz:6 Latn:6 Zzzz:D5 Glag:7 Zzzz Glag:11 Zzzz:2 Glag:7 Zzzz Glag:2 Zzzz",
    "Glag:5 Zzzz:5 Cyrl:3E Zzzz:21 Cyrl Zzzz:70 Hmnp:2D Zzzz:3 Hmnp:E Zzzz:2 Hmnp:A Zzzz:4",
    "Hmnp:2 Zzzz:140 Toto:1F Zzzz:11 Wcho:3A Zzzz:5 Wcho Zzzz:1D0 Nagm:2A Zzzz:D6 Onao:2B",
    "Zzzz:4 Onao Zzzz:C0 Tayo:1F Zzzz Tayo:16 Zzzz:8 Tayo:2 Zzzz:E0 Ethi:7 Zzzz Ethi:4 Zzzz",
    "Ethi:2 Zzzz Ethi:F Zzzz Mend:C5 Zzzz:2 Mend:10 Zzzz:29 Adlm:4C Zzzz:4 Adlm:A Zzzz:4",
    "Adlm:2 Zzzz:311 Zyyy:44 Zzzz:4C Zyyy:3D Zzzz:C2 Arab:4 Zzzz Arab:1B Zzzz Arab:2 Zzzz Arab",
    "Zzzz:2 Arab Zzzz Arab:A Zzzz Arab:4 Zzzz Arab Zzzz Arab Zzzz:6 Arab Zzzz:4 Arab Zzzz Arab",
    "Zzzz Arab Zzzz Arab:3 Zzzz Arab:2 Zzzz Arab Zzzz:2 Arab Zzzz Arab Zzzz Arab Zzzz Arab",
    "Zzzz Arab Zzzz Arab:2 Zzzz Arab Zzzz:2 Arab:4 Zzzz Arab:7 Zzzz Arab:4 Zzzz Arab:4 Zzzz",
    "Arab Zzzz Arab:A Zzzz Arab:11 Zzzz:5 Arab:3 Zzzz Arab:5 Zzzz Arab:11 Zzzz:34 Arab:2",
    "Zzzz:10E Zyyy:2C Zzzz:4 Zyyy:64 Zzzz:C Zyyy:F Zzzz:2 Zyyy:F Zzzz Zyyy:F Zzzz Zyyy:25",
    "Zzzz:A Zyyy:AE Zzzz:38 Zyyy:1A Hira Zyyy:2 Zzzz:D Zyyy:2C Zzzz:4 Zyyy:9 Zzzz:7 Zyyy:2",
    "Zzzz:E Zyyy:6 Zzzz:9A Zyyy:3D9 Zzzz:3 Zyyy:11 Zzzz:3 Zyyy:D Zzzz:3 Zyyy:DA Zzzz:6 Zyyy:C",
    "Zzzz:4 Zyyy Zzzz:F Zyyy:C Zzzz:4 Zyyy:38 Zzzz:8 Zyyy:A Zzzz:6 Zyyy:28 Zzzz:8 Zyyy:1E",
    "Zzzz:2 Zyyy:C Zzzz:4 Zyyy:2 Zzzz:E Zyyy:9 Zzzz:27 Zyyy:158 Zzzz:8 Zyyy:E Zzzz:2 Zyyy:D",
    "Zzzz:3 Zyyy:B Zzzz:3 Zyyy:39 Zzzz Zyyy Zzzz:4 Zyyy:10 Zzzz:2 Zyyy:C Zzzz:4 Zyyy:A Zzzz:7",
    "Zyyy:93 Zzzz Zyyy:67 Zzzz:405 Hani:A6E0 Zzzz:20 Hani:111E Zzzz:2 Hani:168E Zzzz:2",
    "Hani:1D31 Zzzz:F Hani:26E Zzzz:9A2 Hani:21E Zzzz:5E2 Hani:134B Zzzz:5 Hani:212A",
    "Zzzz:ACB87 Zyyy Zzzz:1E Zyyy:60 Zzzz:80 Zinh:F0 Zzzz:2FE10"]

/-- Characters that are used with several scripts: ranges, each with its scripts. -/
def extensionLines : List String := [
    "B7: Avst Cari Copt Dupl Elba Geor Glag Gong Goth Grek Hani Latn Lydi Mahj Perm Shaw 2BC:",
    "Beng Cyrl Deva Latn Lisu Thai Toto 2C7: Bopo Latn 2C9-2CB: Bopo Latn 2CD: Latn Lisu 2D7:",
    "Latn Thai 2D9: Bopo Latn 300: Cher Copt Cyrl Grek Latn Perm Sunu Tale 301: Cher Cyrl Grek",
    "Latn Osge Sunu Tale Todr 302: Cher Cyrl Latn Tfng 303: Glag Latn Sunu Syrc Thai 304: Aghb",
    "Cher Copt Cyrl Goth Grek Latn Osge Syrc Tfng Todr 305: Copt Elba Glag Goth Kana Latn 306:",
    "Cyrl Grek Latn Perm Tfng 307: Copt Dupl Hebr Latn Perm Syrc Tale Tfng Todr 308: Armn Cyrl",
    "Dupl Goth Grek Hebr Latn Perm Syrc Tale Tfng 309: Latn Tfng 30A: Dupl Latn Syrc 30B: Cher",
    "Cyrl Latn Osge 30C: Cher Latn Tale 30D: Latn Sunu 30E: Ethi Latn 310: Latn Sunu 311: Cyrl",
    "Latn Todr 313: Grek Latn Perm Todr 323: Cher Dupl Kana Latn Syrc Tfng 324: Cher Dupl Latn",
    "Syrc 325: Latn Syrc 32D: Latn Sunu Syrc 32E: Latn Syrc 330: Cher Latn Syrc 331: Aghb Cher",
    "Goth Latn Sunu Syrc Thai 342: Grek 345: Grek 358: Latn Osge 35E: Aghb Latn Todr 363-36F:",
    "Latn 374-375: Copt Grek 483: Cyrl Perm 484: Cyrl Glag 485-486: Cyrl Latn 487: Cyrl Glag",
    "589: Armn Geor Glag 60C: Arab Gara Nkoo Rohg Syrc Thaa Yezi 61B: Arab Gara Nkoo Rohg Syrc",
    "Thaa Yezi 61C: Arab Syrc Thaa 61F: Adlm Arab Gara Nkoo Rohg Syrc Thaa Yezi 640: Adlm Arab",
    "Mand Mani Ougr Phlp Rohg Sogd Syrc 64B-655: Arab Syrc 660-669: Arab Thaa Yezi 670: Arab",
    "Syrc 6D4: Arab Rohg 951: Beng Deva Gran Gujr Guru Knda Latn Mlym Nand Newa Orya Shrd Taml",
    "Telu Tirh 952: Beng Deva Gran Gujr Guru Knda Latn Mlym Newa Orya Taml Telu Tirh 964: Beng",
    "Deva Dogr Gong Gonm Gran Gujr Guru Knda Mahj Mlym Nand Onao Orya Sind Sinh Sylo Takr Taml",
    "Telu Tirh 965: Beng Deva Dogr Gong Gonm Gran Gujr Gukh Guru Knda Limb Mahj Mlym Nand Onao",
    "Orya Sind Sinh Sylo Takr Taml Telu Tirh 966-96F: Deva Dogr Kthi Mahj 9E6-9EF: Beng Cakm",
    "Sylo A66-A6F: Guru Mult AE6-AEF: Gujr Khoj BE6-BF3: Gran Taml CE6-CEF: Knda Nand Tutg",
    "1040-1049: Cakm Mymr Tale 10FB: Geor Glag Latn 16EB-16ED: Runr 1735-1736: Buhd Hano Tagb",
    "Tglg 1802-1803: Mong Phag 1805: Mong Phag 1CD0: Beng Deva Gran Knda 1CD1: Deva 1CD2: Beng",
    "Deva Gran Knda 1CD3: Deva Gran Knda 1CD4: Deva 1CD5: Beng Deva Newa Telu Tirh 1CD6: Beng",
    "Deva Telu 1CD7: Deva Newa Shrd 1CD8: Beng Deva Newa Telu 1CD9: Deva Shrd 1CDA: Deva Knda",
    "Mlym Orya Taml Telu 1CDB: Deva 1CDC-1CDD: Deva Shrd 1CDE-1CDF: Deva 1CE0: Deva Shrd 1CE1:",
    "Beng Deva 1CE2: Deva Newa Tirh 1CE3-1CE8: Deva 1CE9: Deva Nand Newa 1CEA: Beng Deva Shrd",
    "1CEB: Deva Newa 1CEC: Deva 1CED: Beng Deva Newa Shrd 1CEE-1CF1: Deva 1CF2: Beng Deva Gran",
    "Knda Mlym Nand Orya Sinh Telu Tirh Tutg 1CF3: Deva Gran 1CF4: Deva Gran Knda Tutg",
    "1CF5-1CF6: Beng Deva 1CF7: Beng 1CF8-1CF9: Deva Gran 1CFA: Nand 1DC0-1DC1: Grek 1DF8:",
    "Cyrl Latn Syrc 1DFA: Syrc 202F: Latn Mong Phag 204F: Adlm Arab 205A: Cari Geor Glag Hung",
    "Lyci Orkh 205D: Cari Grek Hung Mero 20F0: Deva Gran Latn 2E17: Copt Latn 2E30: Avst Orkh",
    "2E31: Avst Cari Geor Hung Kthi Lydi Samr 2E3C: Dupl 2E41: Adlm Arab Hung 2E43: Cyrl Glag",
    "2FF0-2FFF: Hani Tang 3001: Bopo Hang Hani Hira Kana Mong Yiii 3002: Bopo Hang Hani Hira",
    "Kana Mong Phag Yiii 3003: Bopo Hang Hani Hira Kana 3006: Hani 3008-3009: Bopo Hang Hani",
    "Hira Kana Mong Tibt Yiii 300A-300B: Bopo Hang Hani Hira Kana Lisu Mong Tibt Yiii",
    "300C-3011: Bopo Hang Hani Hira Kana Yiii 3013: Bopo Hang Hani Hira Kana 3014-301B: Bopo",
    "Hang Hani Hira Kana Yiii 301C-301F: Bopo Hang Hani Hira Kana 302A-302D: Bopo Hani 3030:",
    "Bopo Hang Hani Hira Kana 3031-3035: Hira Kana 3037: Bopo Hang Hani Hira Kana 303C-303D:",
    "Hani Hira Kana 303E-303F: Hani 3099-309C: Hira Kana 30A0: Hira Kana 30FB: Bopo Hang Hani",
    "Hira Kana Yiii 30FC: Hira Kana 3190-319F: Hani 31C0-31E5: Hani 31EF: Hani Tang 3220-3247:",
    "Hani 3280-32B0: Hani 32C0-32CB: Hani 32FF: Hani 3358-3370: Hani 337B-337F: Hani",
    "33E0-33FE: Hani A66F: Cyrl Glag A700-A707: Hani Latn A830-A832: Deva Dogr Gujr Guru Khoj",
    "Knda Kthi Mahj Mlym Modi Nand Shrd Sind Takr Tirh Tutg A833-A835: Deva Dogr Gujr Guru",
    "Khoj Knda Kthi Mahj Modi Nand Shrd Sind Takr Tirh Tutg A836-A837: Deva Dogr Gujr Guru",
    "Khoj Kthi Mahj Modi Sind Takr Tirh A838: Deva Dogr Gujr Guru Khoj Kthi Mahj Modi Shrd",
    "Sind Takr Tirh A839: Deva Dogr Gujr Guru Khoj Kthi Mahj Modi Sind Takr Tirh A8F1: Beng",
    "Deva Tutg A8F3: Deva Taml A92E: Kali Latn Mymr A9CF: Bugi Java FD3E-FD3F: Arab Nkoo FDF2:",
    "Arab Thaa FDFD: Arab Thaa FE45-FE46: Bopo Hang Hani Hira Kana FF61-FF65: Bopo Hang Hani",
    "Hira Kana Yiii FF70: Hira Kana FF9E-FF9F: Hira Kana 10100-10101: Cpmn Cprt Linb 10102:",
    "Cprt Linb 10107-10133: Cprt Lina Linb 10137-1013F: Cprt Linb 102E0-102FB: Arab Copt",
    "10AF2: Mani Ougr 11301: Gran Taml 11303: Gran Taml 1133B-1133C: Gran Taml 11FD0-11FD1:",
    "Gran Taml 11FD3: Gran Taml 1BCA0-1BCA3: Dupl 1D360-1D371: Hani 1F250-1F251: Hani"]

/-- Names of scripts after their codes. Names are in small letters without separators. -/
def nameLines : List String := [
    "Adlm:adlam Aghb:caucasianalbanian Ahom:ahom Arab:arabic Armi:imperialaramaic",
    "Armn:armenian Avst:avestan Bali:balinese Bamu:bamum Bass:bassavah Batk:batak Beng:bengali",
    "Berf:beriaerfe Bhks:bhaiksuki Bopo:bopomofo Brah:brahmi Brai:braille Bugi:buginese",
    "Buhd:buhid Cakm:chakma Cans:canadianaboriginal Cari:carian Cham:cham Cher:cherokee",
    "Chrs:chorasmian Copt:coptic Cpmn:cyprominoan Cprt:cypriot Cyrl:cyrillic Deva:devanagari",
    "Diak:divesakuru Dogr:dogra Dsrt:deseret Dupl:duployan Egyp:egyptianhieroglyphs",
    "Elba:elbasan Elym:elymaic Ethi:ethiopic Gara:garay Geor:georgian Glag:glagolitic",
    "Gong:gunjalagondi Gonm:masaramgondi Goth:gothic Gran:grantha Grek:greek Gujr:gujarati",
    "Gukh:gurungkhema Guru:gurmukhi Hang:hangul Hani:han Hano:hanunoo Hatr:hatran Hebr:hebrew",
    "Hira:hiragana Hluw:anatolianhieroglyphs Hmng:pahawhhmong Hmnp:nyiakengpuachuehmong",
    "Hung:oldhungarian Ital:olditalic Java:javanese Kali:kayahli Kana:katakana Kawi:kawi",
    "Khar:kharoshthi Khmr:khmer Khoj:khojki Kits:khitansmallscript Knda:kannada Krai:kiratrai",
    "Kthi:kaithi Lana:taitham Laoo:lao Latn:latin Lepc:lepcha Limb:limbu Lina:lineara",
    "Linb:linearb Lisu:lisu Lyci:lycian Lydi:lydian Mahj:mahajani Maka:makasar Mand:mandaic",
    "Mani:manichaean Marc:marchen Medf:medefaidrin Mend:mendekikakui Merc:meroiticcursive",
    "Mero:meroitichieroglyphs Mlym:malayalam Modi:modi Mong:mongolian Mroo:mro",
    "Mtei:meeteimayek Mult:multani Mymr:myanmar Nagm:nagmundari Nand:nandinagari",
    "Narb:oldnortharabian Nbat:nabataean Newa:newa Nkoo:nko Nshu:nushu Ogam:ogham Olck:olchiki",
    "Onao:olonal Orkh:oldturkic Orya:oriya Osge:osage Osma:osmanya Ougr:olduyghur",
    "Palm:palmyrene Pauc:paucinhau Perm:oldpermic Phag:phagspa Phli:inscriptionalpahlavi",
    "Phlp:psalterpahlavi Phnx:phoenician Plrd:miao Prti:inscriptionalparthian Rjng:rejang",
    "Rohg:hanifirohingya Runr:runic Samr:samaritan Sarb:oldsoutharabian Saur:saurashtra",
    "Sgnw:signwriting Shaw:shavian Shrd:sharada Sidd:siddham Sidt:sidetic Sind:khudawadi",
    "Sinh:sinhala Sogd:sogdian Sogo:oldsogdian Sora:sorasompeng Soyo:soyombo Sund:sundanese",
    "Sunu:sunuwar Sylo:sylotinagri Syrc:syriac Tagb:tagbanwa Takr:takri Tale:taile",
    "Talu:newtailue Taml:tamil Tang:tangut Tavt:taiviet Tayo:taiyo Telu:telugu Tfng:tifinagh",
    "Tglg:tagalog Thaa:thaana Thai:thai Tibt:tibetan Tirh:tirhuta Tnsa:tangsa Todr:todhri",
    "Tols:tolongsiki Toto:toto Tutg:tulutigalari Ugar:ugaritic Vaii:vai Vith:vithkuqi",
    "Wara:warangciti Wcho:wancho Xpeo:oldpersian Xsux:cuneiform Yezi:yezidi Yiii:yi",
    "Zanb:zanabazarsquare Zinh:inherited Zyyy:common Zzzz:unknown Hrkt:katakanaorhiragana"]

/-- The scripts that are used with the characters of some ranges. Of the words that list them, one
    that ends in a colon gives the range that the scripts after it go with. -/
def extensionsOf : List (List Char) → List (Nat × Nat × List String)
  | [] => []
  | word :: words =>
    if word.getLast? = some ':' then
      let (low, high) := rangeOf word.dropLast
      let scripts := (words.takeWhile fun w => w.getLast? ≠ some ':').map String.ofList
      (low, high, scripts) :: extensionsOf words
    else extensionsOf words

/-- Characters that are used with several scripts: ranges with their scripts. -/
def extensions : List (Nat × Nat × List String) := extensionsOf (wordsOf extensionLines)

/-- The code and the name that a word gives. -/
def namingOf (word : List Char) : String × String :=
  let code := word.takeWhile (· ≠ ':')
  (String.ofList code, String.ofList (word.drop (code.length + 1)))

/-- Codes of scripts with their names. -/
def names : List (String × String) := (wordsOf nameLines).map namingOf

/-- Other codes that scripts are known by. -/
def otherCodes : List (String × String) := [("qaac", "Copt"), ("qaai", "Zinh")]

/-- The scripts that came after an edition. -/
def later : Edition → List String
  | .v16 => ["Berf", "Sidt", "Tayo", "Tols"]
  | .v17 => []

/-- The script that a code or a name in small letters names, if an edition has it. -/
def ofName? (e : Edition) (name : String) : Option String :=
  let known := names.find? fun (code, long) => code.map Char.toLower == name || long == name
  let code := (otherCodes.lookup name).or (known.map Prod.fst)
  code.filter fun c => !(later e).contains c

/-- The characters of a script. -/
def set (e : Edition) (code : String) : CharSet := e.restrict (table.select (· == code))

/-- The characters that are used with a script: those that are listed for it, and of its own those
    that are listed for none. -/
def extendedSet (e : Edition) (code : String) : CharSet :=
  let listed := CharSet.ofAscending (extensions.map fun (low, high, _) => (low, high))
  let used := extensions.filterMap fun (low, high, scripts) =>
    if scripts.contains code then some (low, high) else none
  e.restrict (((table.select (· == code)).without listed).union (.ofAscending used))

end Conform.Unicode.Script
