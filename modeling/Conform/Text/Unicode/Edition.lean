import Conform.Text.Unicode.Table

/-!
# Editions of the character set

Each edition of the character set adds characters to those of the edition before it. The tables of
the other modules are those of edition 17.0; what an earlier edition says about its characters is
the same, except where a module lists a correction.

## Main definitions

- `Unicode.Edition` — an edition
- `Unicode.Edition.addedUpTo` — the characters that an edition and those before it added
- `Unicode.Edition.restrict` — the part of a set that it knows
-/

namespace Conform.Unicode

/-- An edition of the character set. -/
inductive Edition where
  | v16 | v17
deriving DecidableEq, Repr

/-- The edition that added a code point; a dash where none has yet. -/
def additions : Partition := .ofRuns [
    "1.1:1F6 3.0:4 1.1:1E 3.0:8 3.2 4.0 3.0:12 4.0:3 4.1:B 5.0:E 1.1:59 3.0:5 4.0:2 1.1:2F 3.0",
    "1.1:A 3.0:5 4.0:11 1.1:46 3.0:9 3.2 4.0:8 4.1:5 4.0:3 1.1:2 3.0 3.2:D 5.1:4 1.1:2 5.1:2",
    "-:2 1.1 5.0:3 1.1 7.0 -:4 1.1:7 - 1.1 - 1.1:14 - 1.1:2C 5.1 1.1:7 3.0 3.2:2 1.1 3.0 1.1",
    "3.0 1.1 3.0 1.1 3.0 1.1:12 3.1:2 3.2 4.0:5 4.1:4 3.0 1.1:C 3.0 1.1:42 3.0 1.1:C 3.0",
    "1.1:29 5.1 3.0:2 3.2:2 3.0:4 1.1:35 3.2:2 1.1:2 3.2:2 1.1:2 3.2:2 5.0 1.1:1C 3.0:2 1.1:8",
    "4.1:2 1.1:2 5.0:6 3.2:10 5.0:4 5.1:10 5.2:2 6.0:2 7.0:8 - 1.1:26 -:2 1.1:7 11.0 1.1:27",
    "11.0 1.1 3.0 -:2 7.0:2 6.1 - 2.0:11 4.1 2.0:D 1.1:A 5.0 1.1:9 2.0 4.1:3 -:8 1.1:1B -:4",
    "11.0 1.1:5 -:B 4.0:4 6.1 7.0 5.1:5 4.1 1.1 4.0:9 5.1:5 1.1 6.3 14.0 4.1 1.1 6.0 1.1:1A",
    "5.1:5 1.1:13 3.0:3 4.0:3 4.1:6 6.0 1.1:E 3.2:2 1.1:48 3.0:2 1.1:5 3.0 1.1:F 3.0 1.1:1E",
    "4.0:2 1.1:A 3.0:5 4.0 3.0:E - 3.0:1E 4.0:3 3.0:1B -:2 4.0:3 4.1:1E 5.1:12 3.0:31 3.2 -:E",
    "5.0:3B -:2 11.0:3 5.2:2E -:2 5.2:F - 6.0:1C -:2 6.0 - 10.0:B -:5 14.0:1F 17.0 14.0:2 -:5",
    "16.0 14.0:8 6.1 7.0 6.1:B 7.0:6 8.0:2 14.0 9.0:8 13.0:A 14.0:B 11.0 9.0:F 8.0 6.1:1B 7.0",
    "5.2 1.1:3 4.0 1.1:35 6.0:2 1.1:12 5.2 6.0 1.1:5 5.2 6.0:2 1.1:19 5.1:2 6.0:5 7.0 5.2:2",
    "5.0:2 4.1 5.0:2 7.0 1.1:3 - 1.1:8 -:2 1.1:2 -:2 1.1:16 - 1.1:7 - 1.1 -:3 1.1:4 -:2 1.1",
    "4.0 1.1:7 -:2 1.1:2 -:2 1.1:3 4.1 -:8 1.1 -:4 1.1:2 - 1.1:5 -:2 1.1:15 5.2 10.0:2 11.0",
    "-:2 4.0 1.1 4.0 - 1.1:6 -:4 1.1:2 -:2 1.1:16 - 1.1:7 - 1.1:2 - 1.1:2 - 1.1:2 -:2 1.1 -",
    "1.1:5 -:4 1.1:2 -:2 1.1:3 -:3 5.1 -:7 1.1:4 - 1.1 -:7 1.1:F 5.1 11.0 -:A 1.1:3 - 1.1:7",
    "4.0 1.1 - 1.1:3 - 1.1:16 - 1.1:7 - 1.1:2 - 1.1:5 -:2 1.1:A - 1.1:3 - 1.1:3 -:2 1.1 -:F",
    "1.1 4.0:3 -:2 1.1:A 6.1 4.0 -:7 8.0 10.0:6 - 1.1:3 - 1.1:8 -:2 1.1:2 -:2 1.1:16 - 1.1:7 -",
    "1.1:2 - 4.0 1.1:4 -:2 1.1:8 5.1 -:2 1.1:2 -:2 1.1:3 -:7 13.0 1.1:2 -:4 1.1:2 - 1.1:3",
    "5.1:2 -:2 1.1:B 4.0 6.0:6 -:A 1.1:2 - 1.1:6 -:3 1.1:3 - 1.1:4 -:3 1.1:2 - 1.1 - 1.1:2 -:3",
    "1.1:2 -:3 1.1:3 -:3 1.1:8 4.1 1.1:3 -:4 1.1:5 -:3 1.1:3 - 1.1:4 -:2 5.1 -:6 1.1 -:E 4.1",
    "1.1:C 4.0:8 -:5 7.0 1.1:3 11.0 1.1:8 - 1.1:3 - 1.1:17 - 1.1:A 7.0 1.1:5 -:2 14.0 5.1",
    "1.1:7 - 1.1:3 - 1.1:4 -:7 1.1:2 - 5.1:2 8.0 - 17.0 14.0 -:2 1.1:2 5.1:2 -:2 1.1:A -:7",
    "12.0 5.1:8 9.0 7.0 1.1:2 11.0 1.1:8 - 1.1:3 - 1.1:17 - 1.1:A - 1.1:5 -:2 4.0:2 1.1:7 -",
    "1.1:3 - 1.1:4 -:7 1.1:2 -:5 17.0 14.0 1.1 - 1.1:2 5.0:2 -:2 1.1:A - 5.0:2 15.0 -:C 10.0",
    "7.0 1.1:2 13.0 1.1:8 - 1.1:3 - 1.1:17 6.0 1.1:10 6.0 10.0:2 5.1 1.1:6 5.1 - 1.1:3 - 1.1:4",
    "6.0 9.0 -:4 9.0:3 1.1 9.0:7 8.0 1.1:2 5.1:2 -:2 1.1:A 5.1:6 9.0:3 5.1:7 - 13.0 3.0:2 -",
    "3.0:12 -:3 3.0:18 - 3.0:9 - 3.0 -:2 3.0:7 -:3 3.0 -:4 3.0:6 - 3.0 - 3.0:8 -:6 7.0:A -:2",
    "3.0:3 -:C 1.1:3A -:4 1.1:1D -:25 1.1:2 - 1.1 - 12.0 1.1:2 12.0 1.1 - 12.0 1.1 12.0:6",
    "1.1:4 12.0 1.1:7 12.0 1.1:3 - 1.1 - 1.1 12.0:2 1.1:2 12.0 1.1:D 12.0 1.1:3 -:2 1.1:5 -",
    "1.1 - 1.1:6 15.0 - 1.1:A -:2 1.1:2 6.1:2 -:20 2.0:48 - 2.0:21 3.0 5.1:2 -:4 2.0:1B 6.0:4",
    "2.0:6 3.0 2.0 - 2.0:15 3.0:3 2.0:7 3.0 2.0 3.0:3 - 3.0:F - 5.1 3.0 4.1:2 5.1:3 5.2:4",
    "6.0:2 -:25 3.0:22 5.1 3.0:5 5.1 3.0:2 5.1 3.0:7 5.1:3 3.0:4 5.1:6 3.0:1A 5.1:40 5.2:4",
    "5.1:2 1.1:26 - 6.1 -:5 6.1 -:2 1.1:27 3.2:2 4.1:2 1.1 4.1 6.1:3 1.1:5A 5.2:5 1.1:44 5.2:5",
    "1.1:52 5.2:6 3.0:7 4.1 3.0:3F 4.1 3.0 - 3.0:4 -:2 3.0:7 - 3.0 - 3.0:4 -:2 3.0:27 4.1 3.0",
    "- 3.0:4 -:2 3.0:1F 4.1 3.0 - 3.0:4 -:2 3.0:7 - 3.0 - 3.0:4 -:2 3.0:7 4.1 3.0:7 - 3.0:17",
    "4.1 3.0:1F 4.1 3.0 - 3.0:4 -:2 3.0:7 4.1 3.0:27 4.1 3.0:13 -:2 6.0:2 4.1:2 3.0:1C -:3",
    "4.1:1A -:6 3.0:55 8.0 -:2 8.0:6 -:2 5.2 3.0:276 5.2:9 3.0:1D -:3 3.0:51 7.0:8 -:7 3.2:D",
    "14.0 3.2:7 14.0 -:9 14.0 3.2:17 -:9 3.2:14 -:C 3.2:D - 3.2:3 - 3.2:2 -:C 3.0:5D 4.0 -:2",
    "3.0:A -:6 4.0:A -:6 3.0:F 14.0 3.0:A -:6 3.0:58 11.0 -:7 3.0:2A 5.1 -:5 5.2:46 -:A 4.0:1D",
    "7.0:2 - 4.0:C -:4 4.0:C -:4 4.0 -:3 4.0:2A -:2 4.0:5 -:B 4.1:2A 5.2:2 -:4 4.1:1A -:6",
    "4.1:A 5.2 -:3 4.1:2 4.0:20 4.1:1C -:2 4.1:2 5.2:3F - 5.2:1D -:2 5.2:B -:6 5.2:A -:6 5.2:E",
    "-:2 7.0:F 13.0:2 14.0:E 17.0:F -:2 17.0:C -:14 5.0:4C 14.0 - 16.0:2 5.0:2D 14.0:2 16.0",
    "5.1:2B 6.1:3 5.1:C 6.1:6 6.0:34 -:8 6.0:4 5.1:38 -:3 5.1:F -:3 5.1:33 9.0:9 16.0:2 -:5",
    "11.0:2B -:2 11.0:3 6.1:8 -:8 5.2:23 6.1:4 10.0 7.0:2 12.0 -:5 4.0:6C 4.1:58 5.0:7 5.1:1C",
    "7.0:F 10.0:4 14.0 9.0 6.0 5.2 5.0:2 1.1:9B 2.0 5.1:4 1.1:5A 5.1:6 1.1:16 -:2 1.1:6 -:2",
    "1.1:26 -:2 1.1:6 -:2 1.1:8 - 1.1 - 1.1 - 1.1 - 1.1:1F -:2 1.1:35 - 1.1:F - 1.1:E -:2",
    "1.1:6 - 1.1:13 -:2 1.1:3 - 1.1:9 - 1.1:2F 3.0 1.1:17 3.2 3.0:6 3.2:5 4.0:2 4.1:2 3.2",
    "4.1:7 3.2:5 5.1 - 6.3:4 1.1:7 3.2 -:2 1.1:1B - 4.1:5 6.0:8 -:3 1.1:B 2.0 2.1 3.0:3 3.2:2",
    "4.1:4 5.2:3 6.0 6.2 7.0:3 8.0 10.0 14.0 17.0 -:E 1.1:12 3.0:2 3.2:7 4.1 5.0:4 5.1 -:F",
    "1.1:39 3.0:2 4.0 4.1 3.2:F 4.1 5.0:2 5.1 5.2:3 1.1:30 3.0 5.0 5.1:4 5.2 8.0:2 -:4 1.1:5B",
    "3.0:9 3.2:C 1.1:F2 3.2:E 1.1 3.0 1.1:79 3.0 3.2 3.0:1E 3.2:34 4.0:2 4.1:B 5.0:C 5.2 6.0:B",
    "7.0:7 9.0:4 10.0 1.1:25 3.0:2 16.0:3 -:16 1.1:B -:15 1.1:8B 3.2:14 4.0 1.1:96 3.2:A",
    "1.1:50 3.0:8 3.2:8 1.1:14 4.0:2 3.2:2 4.1 3.0 1.1:56 3.0:2 3.2:C 4.1:2 3.2:A 4.0:8 4.1:B",
    "5.1 5.2:2 4.0:2 4.1:10 5.0 5.1:A 5.2:3 5.1:4 5.2:A 6.0 5.2:13 6.0 5.2 6.0:4 5.2:18 7.0",
    "1.1:4 6.0 1.1:4 6.0:2 1.1:1C 6.0 1.1:23 6.0 1.1 6.0 1.1:4 6.0:3 1.1 5.2 1.1:7 6.0:2 1.1:7",
    "3.2:E 1.1:1F 6.0:3 1.1:18 6.0 1.1:E 6.0 4.1:7 5.0:4 6.1 5.1 6.1 6.0:2 3.2:1C 5.1:4 3.2:10",
    "3.0:100 3.2:200 4.0:E 4.1:6 5.0:7 5.1:5 5.0:4 5.1:29 7.0:3 5.1:5 5.2:5 7.0:1A -:2 7.0:20",
    "17.0 13.0 7.0:22 11.0:3 7.0:C 12.0 7.0:8 10.0 11.0:19 8.0:4 11.0:F 12.0 4.1:2F 14.0",
    "4.1:2F 14.0 5.0:D 5.1:3 5.2 5.1:3 5.0:4 5.1:6 5.2:2 4.1:6B 5.2:7 6.1:2 -:5 4.1:2D - 6.1",
    "-:5 6.1 -:2 4.1:36 6.1:2 -:7 4.1 6.0 -:E 6.0 4.1:17 -:9 4.1:7 - 4.1:7 - 4.1:7 - 4.1:7 -",
    "4.1:7 - 4.1:7 - 4.1:7 - 4.1:7 - 5.1:20 4.1:18 5.1:4 4.1:2 5.1:13 5.2 6.1:A 7.0:7 9.0:2",
    "10.0:5 11.0:5 12.0 13.0:3 14.0:B -:22 3.0:1A - 3.0:59 -:C 3.0:D6 -:1A 3.0:C 15.1:4 1.1:38",
    "3.0:3 3.2:3 3.0 1.1 - 1.1:54 3.2:2 -:2 1.1:6 3.2:2 1.1:5E 3.2 -:5 1.1:28 5.1 10.0 11.0 -",
    "1.1:5E - 1.1:10 3.0:18 6.0:3 13.0:5 4.1:10 5.1:14 16.0:2 -:9 15.1 3.2:10 1.1:1D 4.0:2 -",
    "1.1:24 5.2:C 4.0 3.2:F 1.1:1C 4.0:2 4.1 1.1:32 3.2:F 1.1:C 4.0:4 1.1:2F 12.1 1.1:77 4.0:4",
    "1.1:63 4.0:2 1.1:1F 4.0 3.0:19B6 13.0:A 4.0:40 1.1:51A6 4.1:16 5.1:8 5.2:8 6.1 8.0:9",
    "10.0:15 11.0:5 13.0:D 14.0:3 3.0:48D -:3 3.0:12 3.2:2 3.0:10 3.2 3.0:C 3.2 3.0:3 3.2 3.0",
    "-:9 5.2:30 5.1:12C -:14 5.1:20 6.0:2 5.1:12 6.1:8 5.1:1C 7.0:6 8.0 6.1 5.2:58 -:8 4.1:17",
    "5.0:4 5.1:5 5.0:2 5.1:6B 6.0:2 8.0 6.0:2 6.1:2 7.0:C 6.0:A 6.1 7.0:3 9.0 11.0 7.0:2 8.0:6",
    "11.0:2 12.0:6 14.0:2 12.0:5 13.0:4 16.0:3 17.0:2 14.0:2 17.0 14.0 17.0 14.0:5 16.0:3 -:14",
    "17.0 14.0:3 13.0:2 7.0 6.1:2 6.0 5.1:5 4.1:2C 13.0 -:3 5.2:A -:6 5.0:38 -:8 5.1:45 9.0",
    "-:8 5.1:C -:6 5.2:1C 8.0:2 11.0:2 5.1:54 -:B 5.1 5.2:1D -:3 5.2:4E - 5.2:B -:4 5.2:2",
    "7.0:1F - 5.1:37 -:9 5.1:E -:2 5.1:A -:2 5.1:4 5.2:1C 7.0:4 5.2:43 -:18 5.2:5 6.1:17 -:A",
    "6.0:6 -:2 6.0:6 -:2 6.0:6 -:9 6.0:7 - 6.0:7 - 7.0:30 8.0:4 7.0:2 12.0:2 13.0:4 -:4 8.0:50",
    "5.2:2E -:2 5.2:A -:6 2.0:2BA4 -:C 5.2:17 -:4 5.2:31 -:4 2.0:800 1.1:1A2E 6.1:2 3.2:3B",
    "5.2:3 -:2 4.1:6A -:26 1.1:7 -:C 1.1:5 -:5 3.0 1.1:19 - 1.1:5 - 1.1 - 1.1:2 - 1.1:2 -",
    "1.1:6C 6.0:10 14.0 17.0:10 1.1:16D 14.0:10 1.1:40 17.0:2 1.1:36 17.0:7 14.0 3.1:20 1.1:C",
    "3.2 4.0 14.0:2 3.2:10 4.1:A -:6 1.1:4 5.1:3 7.0:7 8.0:2 1.1:15 3.2:2 4.0:2 1.1:A - 1.1:13",
    "- 1.1:4 -:4 1.1:3 3.2 1.1 - 1.1:87 -:2 1.1 - 1.1:5E 3.2:2 1.1:5E -:3 1.1:6 -:2 1.1:6 -:2",
    "1.1:6 -:2 1.1:3 -:3 1.1:7 - 1.1:7 -:A 3.0:3 2.1 1.1:3 4.0:C - 4.0:1A - 4.0:13 - 4.0:2 -",
    "4.0:F -:2 4.0:E -:22 4.0:7B -:5 4.0:3 -:4 4.0:2D -:3 4.0:9 4.1:4B 7.0:2 9.0:2 - 5.1:C",
    "13.0 -:3 7.0 -:2F 5.1:2E -:82 5.1:1D -:3 5.1:31 -:F 7.0:1C -:4 3.1:1F 7.0 3.1:4 -:9",
    "10.0:3 3.1:1B -:5 7.0:2B -:5 4.0:1E - 4.0 4.1:24 -:4 4.1:E -:2A 3.1:26 4.0:2 3.1:26",
    "4.0:50 -:2 4.0:A -:6 9.0:24 -:4 9.0:24 -:4 7.0:28 -:8 7.0:34 -:B 7.0 14.0:B - 14.0:F -",
    "14.0:7 - 14.0:2 - 14.0:B - 14.0:F - 14.0:7 - 14.0:2 -:3 16.0:34 -:C 7.0:137 -:9 7.0:16",
    "-:A 7.0:8 -:18 14.0:6 - 14.0:2A - 14.0:9 -:45 4.0:6 -:2 4.0 - 4.0:2C - 4.0:2 -:3 4.0 -:2",
    "4.0 5.2:16 - 5.2:9 7.0:3F -:8 7.0:9 -:30 8.0:13 - 8.0:2 -:5 8.0:5 5.0:1A 5.2:2 -:3 5.0",
    "5.1:1A -:5 5.1 17.0:1A -:26 6.1:38 -:4 8.0:2 6.1:2 8.0:10 -:2 8.0:2E 4.1:4 - 4.1:2 -:5",
    "4.1:8 - 4.1:3 - 4.1:1B 11.0:2 -:2 4.1:3 -:4 4.1:9 11.0 -:7 4.1:9 -:7 5.2:20 7.0:20 -:20",
    "7.0:27 -:4 7.0:C -:9 5.2:36 -:3 5.2:1D -:2 5.2:1B -:5 5.2:8 7.0:12 -:7 7.0:4 -:C 7.0:7",
    "-:50 5.2:49 -:37 8.0:33 -:D 8.0:33 -:7 8.0:6 11.0:28 -:8 11.0:A -:6 16.0:26 -:3 16.0:1D",
    "-:8 16.0:2 -:D0 5.2:1F - 13.0:2A - 13.0:3 -:2 13.0:2 -:10 16.0:3 17.0:3 -:8 17.0:9 -:21",
    "17.0:2 16.0 15.0:3 11.0:28 -:8 11.0:2A -:16 14.0:1A -:26 13.0:1C -:14 12.0:17 -:9 6.0:4E",
    "-:4 6.0:1E 14.0:6 -:9 7.0 5.2:42 14.0 -:A 11.0 -:2 6.1:19 -:7 6.1:A -:6 6.1:35 - 6.1:E",
    "11.0:3 13.0 -:8 7.0:27 -:9 6.1:49 8.0:4 7.0 13.0:2 6.1:A 7.0 8.0:5 - 7.0:14 -:B 7.0:12 -",
    "7.0:2B 9.0 15.0:3 -:3E 8.0:7 - 8.0 - 8.0:4 - 8.0:F - 8.0:B -:6 7.0:3B -:5 7.0:A -:6 8.0",
    "7.0:3 - 7.0:8 -:2 7.0:2 -:2 7.0:16 - 7.0:7 - 7.0:2 - 7.0:5 - 11.0 7.0:9 -:2 7.0:2 -:2",
    "7.0:3 -:2 8.0 -:6 7.0 -:5 7.0:7 -:2 7.0:7 -:3 7.0:5 -:B 16.0:A - 16.0 -:2 16.0 - 16.0:26",
    "- 16.0:A - 16.0 -:2 16.0 - 16.0:4 - 16.0:A - 16.0:2 -:8 16.0:2 -:1D 9.0:5A 13.0 9.0 - 9.0",
    "11.0 12.0 13.0:2 -:1E 7.0:48 -:8 7.0:A -:A6 7.0:36 -:2 7.0:12 8.0:14 -:22 7.0:45 -:B",
    "7.0:A -:6 9.0:D -:13 6.1:38 12.0 14.0 -:6 6.1:A -:6 16.0:14 -:1C 8.0:1A 11.0 -:2 8.0:F",
    "-:4 8.0:10 14.0:7 -:B9 11.0:3C -:64 7.0:53 -:C 7.0 13.0:7 -:2 13.0 -:2 13.0:8 - 13.0:2 -",
    "13.0:1E - 13.0:2 -:2 13.0:C -:9 13.0:A -:46 12.0:8 -:2 12.0:2E -:2 12.0:B -:1B 10.0:48",
    "-:8 10.0:34 12.0:2 10.0:17 11.0 10.0:5 -:D 14.0:10 7.0:39 -:7 15.0:A -:56 17.0:8 -:58",
    "16.0:22 -:E 16.0:A -:6 9.0:9 - 9.0:2D - 9.0:E -:A 9.0:1D -:3 9.0:20 -:2 9.0:16 - 9.0:E",
    "-:49 10.0:7 - 10.0:2 - 10.0:2C -:3 10.0 - 10.0:2 - 10.0:9 -:8 10.0:A -:6 11.0:6 - 11.0:2",
    "- 11.0:25 - 11.0:2 - 11.0:6 -:7 11.0:A -:6 17.0:2C -:4 17.0:A -:F6 11.0:19 -:7 15.0:11 -",
    "15.0:29 -:3 15.0:1C 16.0 -:55 13.0 -:F 12.0:32 -:D 12.0 5.0:36F 7.0:2A 8.0 -:66 5.0:63",
    "7.0:C - 5.0:4 7.0 -:B 8.0:C4 -:A4C 14.0:63 -:D 5.2:42F 15.0 12.0:9 15.0:1D -:A 16.0:F9B",
    "-:5 8.0:247 -:1AB9 16.0:3A -:6C6 6.0:239 -:7 7.0:1F - 7.0:A -:4 7.0:2 14.0:4F - 14.0:A",
    "-:6 7.0:1E -:2 7.0:6 -:A 7.0:46 -:A 7.0:A - 7.0:7 - 7.0:15 -:5 7.0:13 -:1B0 16.0:3A -:C6",
    "11.0:5B -:5 17.0:19 -:2 17.0:19 -:2C 6.1:45 12.0:6 -:4 12.0 6.1:2F 12.0:9 -:7 6.1:11 -:40",
    "9.0 10.0 12.0:2 13.0 -:B 13.0:2 17.0:5 -:9 9.0:17ED 11.0:5 12.0:6 17.0:8 9.0:2F3 13.0:1E3",
    "-:29 16.0 13.0:9 17.0:16 -:61 17.0:73 -:21FD 14.0:4 - 14.0:7 - 14.0:2 - 6.0:2 10.0:11D",
    "14.0:4 -:F 15.0 -:1D 12.0:3 -:2 15.0 -:E 12.0:4 -:8 10.0:18C -:904 7.0:6B -:5 7.0:D -:3",
    "7.0:9 -:7 7.0:A -:2 7.0:8 -:F5C 16.0:FA 17.0:3 -:3 16.0:1B4 -:6 17.0:17 -:F 17.0:11 -:F",
    "14.0:2E -:2 14.0:17 -:9 14.0:74 -:3C 3.1:F6 -:A 3.1:27 -:2 5.1 3.1:B4 8.0:B 14.0:2 -:15",
    "4.1:46 -:7A 15.0:14 -:C 11.0:14 -:C 4.0:57 -:9 5.0:12 11.0:7 -:87 3.1:55 - 3.1:47 - 3.1:2",
    "-:2 3.1 -:2 3.1:2 -:2 3.1:4 - 3.1:C - 3.1 - 3.1:4 4.0 3.1:2 - 3.1:41 - 3.1:4 -:2 3.1:8 -",
    "3.1:7 - 3.1:1C - 3.1:4 - 3.1:5 - 3.1 -:3 3.1:7 - 3.1:152 4.1:2 -:2 3.1:122 5.0:2 -:2",
    "3.1:32 8.0:28C -:F 8.0:5 - 8.0:F -:450 14.0:1F -:6 15.0:6 -:D5 9.0:7 - 9.0:11 -:2 9.0:7 -",
    "9.0:2 - 9.0:5 -:5 15.0:3E -:21 15.0 -:70 12.0:2D -:3 12.0:E -:2 12.0:A -:4 12.0:2 -:140",
    "14.0:1F -:11 12.0:3A -:5 12.0 -:1D0 15.0:2A -:D6 16.0:2B -:4 16.0 -:C0 17.0:1F - 17.0:16",
    "-:8 17.0:2 -:E0 14.0:7 - 14.0:4 - 14.0:2 - 14.0:F - 7.0:C5 -:2 7.0:10 -:29 9.0:4B 12.0",
    "-:4 9.0:A -:4 9.0:2 -:311 11.0:44 -:4C 12.0:3D -:C2 6.1:4 - 6.1:1B - 6.1:2 - 6.1 -:2 6.1",
    "- 6.1:A - 6.1:4 - 6.1 - 6.1 -:6 6.1 -:4 6.1 - 6.1 - 6.1 - 6.1:3 - 6.1:2 - 6.1 -:2 6.1 -",
    "6.1 - 6.1 - 6.1 - 6.1 - 6.1:2 - 6.1 -:2 6.1:4 - 6.1:7 - 6.1:4 - 6.1:4 - 6.1 - 6.1:A -",
    "6.1:11 -:5 6.1:3 - 6.1:5 - 6.1:11 -:34 6.1:2 -:10E 5.1:2C -:4 5.1:64 -:C 6.0:F -:2 6.0:E",
    "7.0 - 6.0:F - 6.0:F 7.0:16 -:A 5.2:B 7.0:2 13.0:3 5.2:1F 11.0 6.0 5.2 6.0:B 5.2 6.0 5.2",
    "6.0:2 5.2 6.0:3 5.2 6.0:3 5.2:5 6.0:8 5.2 6.0:7 5.2 6.0:A 6.1:2 12.0 13.0:3 6.0:9 5.2 6.0",
    "5.2:2 6.0:2 5.2 6.0:A 5.2:4 6.0:2 5.2 6.0:A 9.0:12 13.0 -:38 6.0:1A 5.2 6.0:2 -:D 5.2:22",
    "6.0:9 9.0 -:4 5.2:9 -:7 6.0:2 -:E 10.0:6 -:9A 6.0:21 7.0:C 8.0:3 6.0:6 7.0 6.0:46 7.0",
    "8.0:2 6.0:14 7.0:C 6.0:25 7.0 6.0:5 7.0:4 8.0:5 7.0:C 6.0:11 7.0:7 8.0:8 6.0:3F 7.0 6.0",
    "7.0 6.0:B6 7.0 6.0:4 7.0:2 8.0 6.0:3E 7.0:2 6.1:4 7.0:7 8.0:5 6.0:18 7.0:12 9.0 7.0:29",
    "9.0 7.0:56 6.0:5 6.1 6.0:10 6.1 6.0:3 6.1 6.0 6.1 6.0 6.1 6.0 6.1 6.0:3 6.1 6.0:6 6.1:2",
    "6.0:4 6.1 6.0 6.1:2 6.0:4 6.1 6.0:C 7.0:2 8.0:2 6.0:B 7.0:30 6.0:46 7.0:A 8.0 9.0:2",
    "10.0:2 12.0 13.0:2 17.0 -:3 15.0 14.0:3 7.0:D -:3 7.0:4 9.0:3 10.0:2 11.0 12.0 13.0:2 -:3",
    "6.0:74 15.0:3 17.0:4 15.0:5 7.0:55 11.0:4 15.0 -:6 12.0:C -:4 14.0 -:F 7.0:C -:4 7.0:38",
    "-:8 7.0:A -:6 7.0:28 -:8 7.0:1E -:2 13.0:2 16.0:A -:4 16.0:2 -:E 17.0:9 -:27 10.0:C 13.0",
    "12.0:3 8.0:9 9.0:6 10.0 9.0:8 10.0:8 9.0 10.0:2 9.0:C 12.0 9.0:C 10.0 11.0:3 9.0:F 10.0:D",
    "11.0:5 12.0 13.0 11.0:4 13.0:2 14.0 11.0 12.0 11.0:4 8.0:5 9.0:D 10.0:6 11.0:B 13.0:2",
    "12.0:6 13.0:3 12.0:2 11.0:A 12.0:6 8.0 11.0:2 12.0:8 13.0 14.0 12.0:3 10.0:17 11.0:19",
    "12.0:54 17.0:4 -:8 11.0:E -:2 12.0:4 13.0 15.0:3 12.0:3 14.0:2 -:3 12.0:3 13.0:4 15.0:2",
    "16.0 17.0 -:3 17.0 16.0 12.0:6 13.0:13 14.0:4 15.0:3 13.0:7 14.0:4 15.0:3 16.0 15.0",
    "13.0:3 14.0:3 16.0 - 17.0 -:4 17.0 15.0:2 13.0:7 14.0:3 15.0:2 16.0 -:2 16.0 14.0:8 15.0",
    "16.0 17.0 -:4 17.0 14.0:7 15.0:2 -:7 13.0:93 - 13.0:37 16.0:25 13.0:A 17.0 -:403 2.0:2",
    "3.1:A6D7 13.0:7 14.0:2 -:20 5.2:1035 14.0:4 15.0 17.0:6 6.0:DE -:2 8.0:1682 17.0:C -:2",
    "10.0:1D31 -:F 15.1:26E -:9A2 3.1:21E -:5E0 2.0:2 13.0:134B -:5 15.0:1060 17.0:10CA -:CB84",
    "2.0:2 -:FFFE 2.0:2 -:FFFE 2.0:2 -:FFFE 2.0:2 -:FFFE 2.0:2 -:FFFE 2.0:2 -:FFFE 2.0:2",
    "-:FFFE 2.0:2 -:FFFE 2.0:2 -:FFFE 2.0:2 -:FFFE 2.0:2 - 3.1 -:1E 3.1:60 -:80 4.0:F0 -:FE0E",
    "2.0:20002"]

namespace Edition

/-- The characters that were added after an edition. -/
def later : Edition → CharSet
  | v16 => additions.select (· == "17.0")
  | v17 => .empty

/-- The part of a set that an edition knows. -/
def restrict (e : Edition) (s : CharSet) : CharSet :=
  match e with
  | v16 => s.without (later v16)
  | v17 => s

/-- The characters that an edition and those before it added, by the number of that edition. -/
def addedUpTo (numbers : List String) : CharSet := additions.select numbers.contains

end Edition

end Conform.Unicode
