import GridPolicy.Pattern.CharSet

/-!
# Simple case folding

Two characters are the same letter in different case when simple case folding
takes both to one character. Most such families are pairs, and the pairs come in
runs with a fixed distance inside the pair and a fixed stride from one pair to
the next; the other families are listed. The data are those of Unicode 16.0.
-/
namespace GridPolicy.Pattern.Unicode

/-- Pairs `first + i * stride` and that plus `distance`, for `i < count`. -/
structure FoldingRun where
  first : Nat
  distance : Nat
  count : Nat
  stride : Nat

def readFoldingRun (cs : List Char) : FoldingRun :=
  match (cs.splitOn ':').map hexValue with
  | [first, distance, count, stride] => ⟨first, distance, count, stride⟩
  | _ => ⟨0, 0, 0, 1⟩

/-- Each run as first code point, distance, count and stride. -/
def foldingRuns : List FoldingRun := (splitTable
  "41:20:A:1 4C:20:8:2 4D:20:4:4 C0:20:10:2 C1:20:2:2 C7:20:8:2 D9:20:3:2 100:1:18:2 132:1:3:2
    139:1:8:2 14A:1:17:2 179:1:3:2 182:1:2:2 187:1:2:4 189:CD:2:1 1A0:1:3:2 1AF:1:2:4 1B1:D9:2:1
    1B8:1:2:4 1CD:1:8:2 1DE:1:9:2 1F4:1:B:4 1FA:1:F:4 224:1:4:4 23F:2A3F:2:1 246:1:5:2
    266:A544:2:4 370:1:2:2 37B:82:3:1 388:25:3:1 38E:3F:2:1 391:20:2:2 394:20:2:2 397:20:3:4
    39D:20:2:1 3A4:20:2:1 3A7:20:2:1 3AA:20:2:1 3D8:1:C:2 400:50:10:1 410:20:2:1 413:20:8:4
    415:20:3:4 416:20:4:2 420:20:4:4 425:20:3:4 460:1:9:4 466:1:7:4 48A:1:1B:2 4C1:1:7:2
    4D0:1:30:2 531:30:26:1 10A0:1C60:26:1 10D0:BC0:2B:1 10FD:BC0:3:1 13A0:97D0:50:1 13F0:8:6:1
    1E00:1:30:2 1E62:1:1A:2 1EA0:1:30:2 1F00:8:8:1 1F10:8:6:1 1F20:8:8:1 1F30:8:8:1 1F40:8:6:1
    1F51:8:4:2 1F60:8:8:1 1F70:4A:2:1 1F72:56:4:1 1F76:64:2:1 1F78:80:2:1 1F7A:70:2:1 1F7C:7E:2:1
    1F80:8:8:1 1F90:8:8:1 1FA0:8:8:1 1FB0:8:2:1 1FD0:8:2:1 1FE0:8:2:1 2160:10:10:1 24B6:1A:1A:1
    2C00:30:30:1 2C67:1:3:2 2C80:1:32:2 2CEB:1:2:2 A640:1:C:4 A642:1:2:4 A64E:1:8:4 A680:1:E:2
    A722:1:14:4 A724:1:3:4 A734:1:F:4 A779:1:2:2 A77E:1:5:2 A790:1:2:2 A796:1:A:2 A7B4:1:8:2
    A7C7:1:2:2 A7CC:1:2:4 A7D6:1:3:2 FF21:20:1A:1 10400:28:28:1 104B0:28:24:1 10570:27:13:2
    10571:27:A:4 10573:27:2:4 1057F:27:3:4 10C80:40:33:1 10D50:20:16:1 118A0:20:20:1 16E40:20:20:1
    1E900:22:22:1").map
    readFoldingRun

/-- The families with more than two members, and the pairs that stand alone. -/
def foldingFamilies : List (List Nat) := (splitTable
  "4B:6B:212A 4F:6F 53:73:17F 57:77 B5:39C:3BC C5:E5:212B DF:1E9E FF:178 180:243 181:253 186:254
    18E:1DD 18F:259 190:25B 191:192 193:260 194:263 195:1F6 196:269 197:268 198:199 19A:23D
    19B:A7DC 19C:26F 19D:272 19E:220 19F:275 1A6:280 1A7:1A8 1A9:283 1AC:1AD 1AE:288 1B5:1B6
    1B7:292 1BF:1F7 1C4:1C5:1C6 1C7:1C8:1C9 1CA:1CB:1CC 1F1:1F2:1F3 23A:2C65 23B:23C 23E:2C66
    241:242 244:289 245:28C 250:2C6F 251:2C6D 252:2C70 25C:A7AB 261:A7AC 264:A7CB 265:A78D
    26B:2C62 26C:A7AD 271:2C6E 27D:2C64 282:A7C5 287:A7B1 29D:A7B2 29E:A7B0 345:399:3B9:1FBE
    376:377 37F:3F3 386:3AC 38C:3CC 390:1FD3 392:3B2:3D0 395:3B5:3F5 398:3B8:3D1:3F4 39A:3BA:3F0
    3A0:3C0:3D6 3A1:3C1:3F1 3A3:3C2:3C3 3A6:3C6:3D5 3A9:3C9:2126 3B0:1FE3 3CF:3D7 3F2:3F9 3F7:3F8
    3FA:3FB 412:432:1C80 414:434:1C81 41E:43E:1C82 421:441:1C83 422:442:1C84:1C85 426:446
    42A:44A:1C86 42E:44E 462:463:1C87 4C0:4CF 10C7:2D27 10CD:2D2D 1C88:A64A:A64B 1C89:1C8A
    1D79:A77D 1D7D:2C63 1D8E:A7C6 1E60:1E61:1E9B 1FB3:1FBC 1FC3:1FCC 1FE5:1FEC 1FF3:1FFC 2132:214E
    2183:2184 2C60:2C61 2C72:2C73 2C75:2C76 2CF2:2CF3 A78B:A78C A794:A7C4 A7B3:AB53 A7F5:A7F6
    FB05:FB06 1058F:105B6").map
    fun cs => (cs.splitOn ':').map hexValue

/-- The place of `n` in the run that begins at `first`, if it has one. -/
def FoldingRun.index? (run : FoldingRun) (first n : Nat) : Option Nat :=
  if n < first then none
  else
    let offset := n - first
    if offset % run.stride == 0 && offset / run.stride < run.count then
      some (offset / run.stride)
    else none

/-- The other member of the pair that `n` is in. -/
def FoldingRun.partner? (run : FoldingRun) (n : Nat) : Option Nat :=
  if (run.index? run.first n).isSome then some (n + run.distance)
  else if (run.index? (run.first + run.distance) n).isSome then some (n - run.distance)
  else none

/-- The code points that are the same letter as `n`, with `n` itself. -/
def foldingFamily (n : Nat) : List Nat :=
  match foldingFamilies.find? fun family => family.contains n with
  | some family => family
  | none =>
    match foldingRuns.findSome? fun run => run.partner? n with
    | some partner => [n, partner]
    | none => [n]

def FoldingRun.pairs (run : FoldingRun) : List (List Nat) :=
  (List.range run.count).map fun i =>
    let n := run.first + i * run.stride
    [n, n + run.distance]

/-- All families of two members or more. -/
def allFamilies : List (List Nat) := foldingFamilies ++ foldingRuns.flatMap FoldingRun.pairs

end GridPolicy.Pattern.Unicode
