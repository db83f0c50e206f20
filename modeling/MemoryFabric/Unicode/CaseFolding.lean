import MemoryFabric.Unicode.WrittenSet

/-!
# Letters of either case

Which characters are the same letter when the case does not count.  Most of them are pairs of a capital and a
small letter, but some letters have three or four forms.  The table has all pairs of forms; it is that of
Unicode 16, of the foldings that keep a letter one character.
-/

namespace MemoryFabric

set_option autoImplicit false

/-- The pairs of forms by the distance of their codes: for each distance the first codes of its pairs, as a
written set. -/
def casePairs : List (Nat × String) := [
  (1,
    "100:12e 132:136 139:147 14a:176 179:17d 182 184 187 18b 191 198 1a0:1a4 1a7 1ac 1af 1b3 1b5
    1b8 1bc 1c4-1c5 1c7-1c8 1ca-1cb 1cd:1db 1de:1ee 1f1-1f2 1f4 1f8:21e 222:232 23b 241 246:24e
    370 372 376 3c2 3d8:3ee 3f7 3fa 460:480 48a:4be 4c1:4cd 4d0:52e 1c84 1c89 1e00:1e94 1ea0:1efe
    2183 2c60 2c67:2c6b 2c72 2c75 2c80:2ce2 2ceb 2ced 2cf2 a640:a66c a680:a69a a722:a72e
    a732:a76e a779 a77b a77e:a786 a78b a790 a792 a796:a7a8 a7b4:a7c2 a7c7 a7c9 a7cc a7d0
    a7d6:a7da a7f5 fb05"),
  (2, "1c4 1c7 1ca 1f1"),
  (7, "3f2 1fe5"),
  (8,
    "3cf 13f0-13f5 1f00-1f07 1f10-1f15 1f20-1f27 1f30-1f37 1f40-1f45 1f51:1f57 1f60-1f67 1f80-1f87
    1f90-1f97 1fa0-1fa7 1fb0-1fb1 1fd0-1fd1 1fe0-1fe1"),
  (9, "1fb3 1fc3 1ff3"),
  (15, "3c6 4c0"),
  (16, "2160-216f"),
  (22, "3c0"),
  (25, "3b8"),
  (26, "24b6-24cf"),
  (28, "2132"),
  (30, "3b2"),
  (31, "3a3"),
  (32, "41-5a c0-d6 d8-de 391-3a1 3a3-3ab 410-42f ff21-ff3a 10d50-10d65 118a0-118bf 16e40-16e5f"),
  (34, "1e900-1e921"),
  (35, "3d1"),
  (37, "388-38a"),
  (38, "386"),
  (39, "10570-1057a 1057c-1058a 1058c-10592 10594-10595"),
  (40, "10400-10427 104b0-104d3"),
  (47, "3a6"),
  (48, "3c1 531-556 2c00-2c2f a794"),
  (54, "3a0 3ba"),
  (56, "1bf"),
  (57, "398"),
  (58, "1e61"),
  (59, "1e60"),
  (60, "3b8"),
  (62, "392"),
  (63, "38e-38f"),
  (64, "38c 3b5 10c80-10cb2"),
  (69, "244"),
  (71, "245"),
  (74, "1f70-1f71"),
  (79, "18e"),
  (80, "3a1 400-40f"),
  (84, "345"),
  (86, "39a 1f72-1f75"),
  (92, "398"),
  (96, "395"),
  (97, "195"),
  (100, "1f76-1f77"),
  (112, "1f7a-1f7b"),
  (116, "345 37f"),
  (121, "ff"),
  (126, "1f7c-1f7d"),
  (128, "1f78-1f79"),
  (130, "19e 37b-37d"),
  (163, "19a"),
  (195, "180"),
  (202, "18f"),
  (203, "190"),
  (205, "189-18a 193"),
  (206, "186"),
  (207, "194"),
  (209, "197"),
  (210, "181"),
  (211, "196 19c"),
  (213, "19d"),
  (214, "19f"),
  (217, "1b1-1b2"),
  (218, "1a6 1a9 1ae"),
  (219, "1b7"),
  (268, "73"),
  (300, "53"),
  (743, "b5"),
  (775, "b5"),
  (928, "a7b3"),
  (3008, "10d0-10fa 10fd-10ff"),
  (3814, "1d7d"),
  (6180, "463"),
  (6181, "462"),
  (6204, "44a"),
  (6210, "441-442"),
  (6211, "442"),
  (6212, "43e"),
  (6221, "434"),
  (6222, "432"),
  (6236, "42a"),
  (6242, "421-422"),
  (6243, "422"),
  (6244, "41e"),
  (6253, "414"),
  (6254, "412"),
  (7173, "3b9"),
  (7205, "399"),
  (7219, "3b0"),
  (7235, "390"),
  (7264, "10a0-10c5 10c7 10cd"),
  (7289, "345"),
  (7517, "3c9"),
  (7549, "3a9"),
  (7615, "df"),
  (8262, "e5"),
  (8294, "c5"),
  (8383, "6b"),
  (8415, "4b"),
  (10727, "27d"),
  (10743, "26b"),
  (10749, "271"),
  (10780, "251"),
  (10782, "252"),
  (10783, "250"),
  (10792, "23e"),
  (10795, "23a"),
  (10815, "23f-240"),
  (35266, "1c88"),
  (35267, "1c88"),
  (35332, "1d79"),
  (35384, "1d8e"),
  (38864, "13a0-13ef"),
  (42258, "29e"),
  (42261, "29d"),
  (42280, "265"),
  (42282, "287"),
  (42305, "26c"),
  (42307, "282"),
  (42308, "266 26a"),
  (42315, "261"),
  (42319, "25c"),
  (42343, "264"),
  (42561, "19b")
]

namespace CharacterSet

/-- The codes in a set. -/
def codes (set : CharacterSet) : List Nat :=
  set.ranges.flatMap fun range =>
    (List.range (range.2 + 1 - range.1)).map fun offset => range.1 + offset

/-- Whether a code is in a set. -/
def hasCode (set : CharacterSet) (code : Nat) : Bool :=
  set.ranges.any fun range => range.1 ≤ code && code ≤ range.2

/-- The codes that one pair of forms adds to a set. -/
def otherForms (set : CharacterSet) (first second : Nat) : List (Nat × Nat) :=
  match set.hasCode first, set.hasCode second with
  | true, false => [(second, second)]
  | false, true => [(first, first)]
  | _, _ => []

/-- All pairs of codes of one letter. -/
def caseForms : List (Nat × Nat) :=
  casePairs.flatMap fun (distance, firsts) =>
    (ofText firsts).codes.map fun first => (first, first + distance)

/-- A set with all forms of its letters. -/
def anyCase (set : CharacterSet) : CharacterSet :=
  ofRanges (set.ranges ++ caseForms.flatMap fun (first, second) => set.otherForms first second)

/-- A set with both forms of its letters of seven bits. -/
def anyAsciiCase (set : CharacterSet) : CharacterSet :=
  ofRanges (set.ranges ++ (List.range 26).flatMap fun letter =>
    set.otherForms ('A'.toNat + letter) ('a'.toNat + letter))

end CharacterSet

end MemoryFabric
