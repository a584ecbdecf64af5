import GroovyRounds.Charset.Grid.Big5
import GroovyRounds.Charset.Grid.Cp950
import GroovyRounds.Charset.Grid.Gb18030
import GroovyRounds.Charset.Grid.Gbk
import GroovyRounds.Charset.Grid.Hkscs
import GroovyRounds.Charset.Reading

/-!
# Chinese

GB 2312 and what extends it, and Big5 and what extends it.
-/

namespace GroovyRounds.Charset

-- ---------------------------------------------------------------------------
-- GB 2312 and GBK
-- ---------------------------------------------------------------------------

/-- The columns of a row of GB 2312 that hold characters, as ranges. -/
def gb2312Columns (row : Nat) : List (Nat × Nat) :=
  match row with
  | 0xA2 => [(0xB1, 0xE2), (0xE5, 0xEE), (0xF1, 0xFC)]
  | 0xA4 => [(0xA1, 0xF3)]
  | 0xA5 => [(0xA1, 0xF6)]
  | 0xA6 => [(0xA1, 0xB8), (0xC1, 0xD8)]
  | 0xA7 => [(0xA1, 0xC1), (0xD1, 0xF1)]
  | 0xA8 => [(0xA1, 0xBA), (0xC5, 0xE9)]
  | 0xA9 => [(0xA4, 0xEF)]
  | 0xD7 => [(0xA1, 0xF9)]
  | row =>
    if row = 0xA1 || row = 0xA3 || (0xB0 ≤ row && row ≤ 0xF7) then [(0xA1, 0xFE)] else []

/-- GB 2312 is a part of GBK but for two signs. -/
def gb2312? (lead trail : Nat) : Option Char :=
  if (gb2312Columns lead).any fun (first, last) => first ≤ trail && trail ≤ last then
    match lead, trail with
    | 0xA1, 0xA4 => some '\u30fb'
    | 0xA1, 0xAA => some '\u2015'
    | _, _ => Grid.gbk.find? lead trail
  else none

def gb2312 : Decoder := .ofPairs gb2312?

def gbk : Decoder := .ofPairs Grid.gbk.find?

-- ---------------------------------------------------------------------------
-- HZ
-- ---------------------------------------------------------------------------

/-- GB 2312 in seven bits: a tilde and a brace go over to it or back from it. -/
def hz : ModalDecoder Bool := fun chinese b bs =>
  if b = '~'.toNat then
    match bs.map charOf, chinese with
    | [], _ => (.cut [], chinese)
    | '~' :: _, false => (.one 1 b, false)
    | '\x7b' :: _, false => ({ chars := [], further := 1 }, true)
    | '\n' :: _, false => ({ chars := [], further := 1 }, false)
    | '\x7d' :: _, true => ({ chars := [], further := 1 }, false)
    | _, _ => (.bad 0, chinese)
  else if 0x80 ≤ b then (.bad 0, chinese)
  else if chinese then
    match bs with
    | [] => (.cut [], true)
    | c :: _ => (.ofChar? 1 (gb2312? (b + 0x80) (c + 0x80)), true)
  else (.one 0 b, false)

-- ---------------------------------------------------------------------------
-- GB 18030
-- ---------------------------------------------------------------------------

/-- The private characters of the three zones that users define. -/
def gb18030Zone? (lead trail : Nat) : Option Char :=
  let column := trail - 0xA1
  if 0xA1 ≤ trail && trail ≤ 0xFE then
    if 0xAA ≤ lead && lead ≤ 0xAF then some (charOf (0xE000 + 94 * (lead - 0xAA) + column))
    else if 0xF8 ≤ lead && lead ≤ 0xFE then some (charOf (0xE234 + 94 * (lead - 0xF8) + column))
    else none
  else if 0xA1 ≤ lead && lead ≤ 0xA7 && 0x40 ≤ trail && trail ≤ 0xA0 && trail ≠ 0x7F then
    some (charOf (0xE4C6 + 96 * (lead - 0xA1) + (trail - if trail < 0x7F then 0x40 else 0x41)))
  else none

/-- Where the characters of four bytes skip some: the place of a character, and its number. -/
def gb18030Ranges : List (Nat × Nat) := [
  (0, 0x80), (36, 0xA5), (38, 0xA9), (45, 0xB2), (50, 0xB8), (81, 0xD8), (89, 0xE2), (95, 0xEB),
  (96, 0xEE), (100, 0xF4), (103, 0xF8), (104, 0xFB), (105, 0xFD), (109, 0x102), (126, 0x114),
  (133, 0x11C), (148, 0x12C), (172, 0x145), (175, 0x149), (179, 0x14E), (208, 0x16C),
  (306, 0x1CF), (307, 0x1D1), (308, 0x1D3), (309, 0x1D5), (310, 0x1D7), (311, 0x1D9),
  (312, 0x1DB), (313, 0x1DD), (341, 0x1FA), (428, 0x252), (443, 0x262), (544, 0x2C8),
  (545, 0x2CC), (558, 0x2DA), (741, 0x3A2), (742, 0x3AA), (749, 0x3C2), (750, 0x3CA),
  (805, 0x402), (819, 0x450), (820, 0x452), (7922, 0x2011), (7924, 0x2017), (7925, 0x201A),
  (7927, 0x201E), (7934, 0x2027), (7943, 0x2031), (7944, 0x2034), (7945, 0x2036), (7950, 0x203C),
  (8062, 0x20AD), (8148, 0x2104), (8149, 0x2106), (8152, 0x210A), (8164, 0x2117), (8174, 0x2122),
  (8236, 0x216C), (8240, 0x217A), (8262, 0x2194), (8264, 0x219A), (8374, 0x2209), (8380, 0x2210),
  (8381, 0x2212), (8384, 0x2216), (8388, 0x221B), (8390, 0x2221), (8392, 0x2224), (8393, 0x2226),
  (8394, 0x222C), (8396, 0x222F), (8401, 0x2238), (8406, 0x223E), (8416, 0x2249), (8419, 0x224D),
  (8424, 0x2253), (8437, 0x2262), (8439, 0x2268), (8445, 0x2270), (8482, 0x2296), (8485, 0x229A),
  (8496, 0x22A6), (8521, 0x22C0), (8603, 0x2313), (8936, 0x246A), (8946, 0x249C), (9046, 0x254C),
  (9050, 0x2574), (9063, 0x2590), (9066, 0x2596), (9076, 0x25A2), (9092, 0x25B4), (9100, 0x25BE),
  (9108, 0x25C8), (9111, 0x25CC), (9113, 0x25D0), (9131, 0x25E6), (9162, 0x2607), (9164, 0x260A),
  (9218, 0x2641), (9219, 0x2643), (11329, 0x2E82), (11331, 0x2E85), (11334, 0x2E89),
  (11336, 0x2E8D), (11346, 0x2E98), (11361, 0x2EA8), (11363, 0x2EAB), (11366, 0x2EAF),
  (11370, 0x2EB4), (11372, 0x2EB8), (11375, 0x2EBC), (11389, 0x2ECB), (11682, 0x2FFC),
  (11686, 0x3004), (11687, 0x3018), (11692, 0x301F), (11694, 0x302A), (11714, 0x303F),
  (11716, 0x3094), (11723, 0x309F), (11725, 0x30F7), (11730, 0x30FF), (11736, 0x312A),
  (11982, 0x322A), (11989, 0x3232), (12102, 0x32A4), (12336, 0x3390), (12348, 0x339F),
  (12350, 0x33A2), (12384, 0x33C5), (12393, 0x33CF), (12395, 0x33D3), (12397, 0x33D6),
  (12510, 0x3448), (12553, 0x3474), (12851, 0x359F), (12962, 0x360F), (12973, 0x361B),
  (13738, 0x3919), (13823, 0x396F), (13919, 0x39D1), (13933, 0x39E0), (14080, 0x3A74),
  (14298, 0x3B4F), (14585, 0x3C6F), (14698, 0x3CE1), (15583, 0x4057), (15847, 0x4160),
  (16318, 0x4338), (16434, 0x43AD), (16438, 0x43B2), (16481, 0x43DE), (16729, 0x44D7),
  (17102, 0x464D), (17122, 0x4662), (17315, 0x4724), (17320, 0x472A), (17402, 0x477D),
  (17418, 0x478E), (17859, 0x4948), (17909, 0x497B), (17911, 0x497E), (17915, 0x4984),
  (17916, 0x4987), (17936, 0x499C), (17939, 0x49A0), (17961, 0x49B8), (18664, 0x4C78),
  (18703, 0x4CA4), (18814, 0x4D1A), (18962, 0x4DAF), (19043, 0x9FA6), (33469, 0xE76C),
  (33470, 0xE7C8), (33471, 0xE7E7), (33484, 0xE815), (33485, 0xE819), (33490, 0xE81F),
  (33497, 0xE827), (33501, 0xE82D), (33505, 0xE833), (33513, 0xE83C), (33520, 0xE844),
  (33536, 0xE856), (33550, 0xE865), (37845, 0xF92D), (37921, 0xF97A), (37948, 0xF996),
  (38029, 0xF9E8), (38038, 0xF9F2), (38064, 0xFA10), (38065, 0xFA12), (38066, 0xFA15),
  (38069, 0xFA19), (38075, 0xFA22), (38076, 0xFA25), (38078, 0xFA2A), (39108, 0xFE32),
  (39109, 0xFE45), (39113, 0xFE53), (39114, 0xFE58), (39115, 0xFE67), (39116, 0xFE6C),
  (39265, 0xFF5F), (39394, 0xFFE6)]

/-- The character at a place among those of four bytes. -/
def gb18030Number? (place : Nat) : Option Nat :=
  if place < 39420 then do
    let (first, number) ← gb18030Ranges.findRev? fun (first, _) => first ≤ place
    some (number + (place - first))
  else if 189000 ≤ place && place - 189000 ≤ 0xFFFFF then some (0x10000 + (place - 189000))
  else none

/-- A second byte that is a digit makes a character of four bytes. -/
def gb18030 : Decoder := fun b bs =>
  match bs with
  | [] => if b < 0x80 then .one 0 b else .cut []
  | c :: rest =>
    if b < 0x80 then .one 0 b
    else if 0x30 ≤ c && c ≤ 0x39 then
      match rest with
      | d :: e :: _ =>
        if 0x81 ≤ b && b ≤ 0xFE && 0x81 ≤ d && d ≤ 0xFE && 0x30 ≤ e && e ≤ 0x39 then
          let place := (((b - 0x81) * 10 + (c - 0x30)) * 126 + (d - 0x81)) * 10 + (e - 0x30)
          .ofChar? 3 ((gb18030Number? place).map charOf)
        else .bad 0
      | _ => .cut bs
    else .ofChar? 1 (Grid.gbk.find? b c <|> Grid.gb18030Only.find? b c <|> gb18030Zone? b c)

-- ---------------------------------------------------------------------------
-- Big5
-- ---------------------------------------------------------------------------

def big5 : Decoder := .ofPairs Grid.big5.find?

def cp950 : Decoder := .ofPairs fun lead trail =>
  Grid.cp950Only.find? lead trail <|> Grid.big5.find? lead trail

/-- The Hong Kong set has two letters with two marks each, which are written as two
characters. -/
def hkscsMarked? (lead trail : Nat) : Option (List Char) :=
  match lead, trail with
  | 0x88, 0x62 => some ['\u00ca', '\u0304']
  | 0x88, 0x64 => some ['\u00ca', '\u030c']
  | 0x88, 0xA3 => some ['\u00ea', '\u0304']
  | 0x88, 0xA5 => some ['\u00ea', '\u030c']
  | _, _ => none

/-- The Hong Kong set extends Big5 but lacks some of its signs. -/
def hkscs? (lead trail : Nat) : Option Char :=
  if lead = 0xC6 && [0xCF, 0xD3, 0xD5, 0xD7, 0xDE, 0xDF].contains trail then none
  else Grid.hkscsOnly.find? lead trail <|> Grid.big5.find? lead trail

def hkscs : Decoder := fun b bs =>
  match bs with
  | c :: _ =>
    match hkscsMarked? b c with
    | some chars => { chars, further := 1 }
    | none => Decoder.ofPairs hkscs? b bs
  | [] => Decoder.ofPairs hkscs? b bs

end GroovyRounds.Charset
