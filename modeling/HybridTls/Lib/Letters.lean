import Mathlib.Data.Nat.Notation

/-!
# Upper and lower case

`str.upper` and `str.lower`, which go character by character. Most letters with a case have
one letter of the other case, and these come in rows (`Python.casePairs`); some have an upper
case of several characters (`Python.upperExpansions`).

What follows a character is looked at only for a capital sigma, which at the end of a word
has a lower case of its own. This is left out: it matters only if the lower case is shown.
-/

namespace Python

/-! ### The letters -/

/-- **The letters beyond ASCII that are each other's upper and lower case**, in rows: the first
upper case letter, the first lower case letter, how many there are, and how far it is from one
to the next. -/
def casePairs : List (ℕ × ℕ × ℕ × ℕ) :=
  [(192, 224, 23, 1), (216, 248, 7, 1), (256, 257, 24, 2), (306, 307, 3, 2), (313, 314, 8, 2),
    (330, 331, 23, 2), (376, 255, 1, 1), (377, 378, 3, 2), (385, 595, 1, 1), (386, 387, 2, 2),
    (390, 596, 1, 1), (391, 392, 1, 1), (393, 598, 2, 1), (395, 396, 1, 1), (398, 477, 1, 1),
    (399, 601, 1, 1), (400, 603, 1, 1), (401, 402, 1, 1), (403, 608, 1, 1), (404, 611, 1, 1),
    (406, 617, 1, 1), (407, 616, 1, 1), (408, 409, 1, 1), (412, 623, 1, 1), (413, 626, 1, 1),
    (415, 629, 1, 1), (416, 417, 3, 2), (422, 640, 1, 1), (423, 424, 1, 1), (425, 643, 1, 1),
    (428, 429, 1, 1), (430, 648, 1, 1), (431, 432, 1, 1), (433, 650, 2, 1), (435, 436, 2, 2),
    (439, 658, 1, 1), (440, 441, 1, 1), (444, 445, 1, 1), (452, 454, 1, 1), (455, 457, 1, 1),
    (458, 460, 1, 1), (461, 462, 8, 2), (478, 479, 9, 2), (497, 499, 1, 1), (500, 501, 1, 1),
    (502, 405, 1, 1), (503, 447, 1, 1), (504, 505, 20, 2), (544, 414, 1, 1), (546, 547, 9, 2),
    (570, 11365, 1, 1), (571, 572, 1, 1), (573, 410, 1, 1), (574, 11366, 1, 1), (577, 578, 1, 1),
    (579, 384, 1, 1), (580, 649, 1, 1), (581, 652, 1, 1), (582, 583, 5, 2), (880, 881, 2, 2),
    (886, 887, 1, 1), (895, 1011, 1, 1), (902, 940, 1, 1), (904, 941, 3, 1), (908, 972, 1, 1),
    (910, 973, 2, 1), (913, 945, 17, 1), (931, 963, 9, 1), (975, 983, 1, 1), (984, 985, 12, 2),
    (1015, 1016, 1, 1), (1017, 1010, 1, 1), (1018, 1019, 1, 1), (1021, 891, 3, 1),
    (1024, 1104, 16, 1), (1040, 1072, 32, 1), (1120, 1121, 17, 2), (1162, 1163, 27, 2),
    (1216, 1231, 1, 1), (1217, 1218, 7, 2), (1232, 1233, 48, 2), (1329, 1377, 38, 1),
    (4256, 11520, 38, 1), (4295, 11559, 1, 1), (4301, 11565, 1, 1), (5024, 43888, 80, 1),
    (5104, 5112, 6, 1), (7312, 4304, 43, 1), (7357, 4349, 3, 1), (7680, 7681, 75, 2),
    (7840, 7841, 48, 2), (7944, 7936, 8, 1), (7960, 7952, 6, 1), (7976, 7968, 8, 1),
    (7992, 7984, 8, 1), (8008, 8000, 6, 1), (8025, 8017, 4, 2), (8040, 8032, 8, 1),
    (8120, 8112, 2, 1), (8122, 8048, 2, 1), (8136, 8050, 4, 1), (8152, 8144, 2, 1),
    (8154, 8054, 2, 1), (8168, 8160, 2, 1), (8170, 8058, 2, 1), (8172, 8165, 1, 1),
    (8184, 8056, 2, 1), (8186, 8060, 2, 1), (8498, 8526, 1, 1), (8544, 8560, 16, 1),
    (8579, 8580, 1, 1), (9398, 9424, 26, 1), (11264, 11312, 48, 1), (11360, 11361, 1, 1),
    (11362, 619, 1, 1), (11363, 7549, 1, 1), (11364, 637, 1, 1), (11367, 11368, 3, 2),
    (11373, 593, 1, 1), (11374, 625, 1, 1), (11375, 592, 1, 1), (11376, 594, 1, 1),
    (11378, 11379, 1, 1), (11381, 11382, 1, 1), (11390, 575, 2, 1), (11392, 11393, 50, 2),
    (11499, 11500, 2, 2), (11506, 11507, 1, 1), (42560, 42561, 23, 2), (42624, 42625, 14, 2),
    (42786, 42787, 7, 2), (42802, 42803, 31, 2), (42873, 42874, 2, 2), (42877, 7545, 1, 1),
    (42878, 42879, 5, 2), (42891, 42892, 1, 1), (42893, 613, 1, 1), (42896, 42897, 2, 2),
    (42902, 42903, 10, 2), (42922, 614, 1, 1), (42923, 604, 1, 1), (42924, 609, 1, 1),
    (42925, 620, 1, 1), (42926, 618, 1, 1), (42928, 670, 1, 1), (42929, 647, 1, 1),
    (42930, 669, 1, 1), (42931, 43859, 1, 1), (42932, 42933, 8, 2), (42948, 42900, 1, 1),
    (42949, 642, 1, 1), (42950, 7566, 1, 1), (42951, 42952, 2, 2), (42960, 42961, 1, 1),
    (42966, 42967, 2, 2), (42997, 42998, 1, 1), (65313, 65345, 26, 1), (66560, 66600, 40, 1),
    (66736, 66776, 36, 1), (66928, 66967, 19, 2), (66929, 66968, 5, 2), (66941, 66980, 7, 2),
    (66957, 66996, 3, 2), (66965, 67004, 1, 1), (68736, 68800, 51, 1), (71840, 71872, 32, 1),
    (93760, 93792, 32, 1), (125184, 125218, 34, 1)]

/-- The letters that are not the upper case of their lower case, in such rows. -/
def lowerOnly : List (ℕ × ℕ × ℕ × ℕ) :=
  [(453, 454, 1, 1), (456, 457, 1, 1), (459, 460, 1, 1), (498, 499, 1, 1), (1012, 952, 1, 1),
    (7838, 223, 1, 1), (8072, 8064, 8, 1), (8088, 8080, 8, 1), (8104, 8096, 8, 1),
    (8124, 8115, 1, 1), (8140, 8131, 1, 1), (8188, 8179, 1, 1), (8486, 969, 1, 1),
    (8490, 107, 1, 1), (8491, 229, 1, 1)]

/-- The letters that are not the lower case of their upper case, in such rows. -/
def upperOnly : List (ℕ × ℕ × ℕ × ℕ) :=
  [(181, 924, 1, 1), (305, 73, 1, 1), (383, 83, 1, 1), (453, 452, 1, 1), (456, 455, 1, 1),
    (459, 458, 1, 1), (498, 497, 1, 1), (837, 921, 1, 1), (962, 931, 1, 1), (976, 914, 1, 1),
    (977, 920, 1, 1), (981, 934, 1, 1), (982, 928, 1, 1), (1008, 922, 1, 1), (1009, 929, 1, 1),
    (1013, 917, 1, 1), (7296, 1042, 1, 1), (7297, 1044, 1, 1), (7298, 1054, 1, 1),
    (7299, 1057, 2, 1), (7301, 1058, 1, 1), (7302, 1066, 1, 1), (7303, 1122, 1, 1),
    (7304, 42570, 1, 1), (7835, 7776, 1, 1), (8126, 921, 1, 1)]

/-- The letters whose upper case is several characters, in rows: the first, how many there are,
the first character for the first of them, and the others for all. -/
def upperExpansions : List (ℕ × ℕ × ℕ × List ℕ) :=
  [(223, 1, 83, [83]), (329, 1, 700, [78]), (496, 1, 74, [780]), (912, 1, 921, [776, 769]),
    (944, 1, 933, [776, 769]), (1415, 1, 1333, [1362]), (7830, 1, 72, [817]),
    (7831, 1, 84, [776]), (7832, 1, 87, [778]), (7833, 1, 89, [778]), (7834, 1, 65, [702]),
    (8016, 1, 933, [787]), (8018, 1, 933, [787, 768]), (8020, 1, 933, [787, 769]),
    (8022, 1, 933, [787, 834]), (8064, 8, 7944, [921]), (8072, 8, 7944, [921]),
    (8080, 8, 7976, [921]), (8088, 8, 7976, [921]), (8096, 8, 8040, [921]),
    (8104, 8, 8040, [921]), (8114, 1, 8122, [921]), (8115, 1, 913, [921]), (8116, 1, 902, [921]),
    (8118, 1, 913, [834]), (8119, 1, 913, [834, 921]), (8124, 1, 913, [921]),
    (8130, 1, 8138, [921]), (8131, 1, 919, [921]), (8132, 1, 905, [921]), (8134, 1, 919, [834]),
    (8135, 1, 919, [834, 921]), (8140, 1, 919, [921]), (8146, 1, 921, [776, 768]),
    (8147, 1, 921, [776, 769]), (8150, 1, 921, [834]), (8151, 1, 921, [776, 834]),
    (8162, 1, 933, [776, 768]), (8163, 1, 933, [776, 769]), (8164, 1, 929, [787]),
    (8166, 1, 933, [834]), (8167, 1, 933, [776, 834]), (8178, 1, 8186, [921]),
    (8179, 1, 937, [921]), (8180, 1, 911, [921]), (8182, 1, 937, [834]),
    (8183, 1, 937, [834, 921]), (8188, 1, 937, [921]), (64256, 1, 70, [70]), (64257, 1, 70, [73]),
    (64258, 1, 70, [76]), (64259, 1, 70, [70, 73]), (64260, 1, 70, [70, 76]),
    (64261, 1, 83, [84]), (64262, 1, 83, [84]), (64275, 1, 1348, [1350]),
    (64276, 1, 1348, [1333]), (64277, 1, 1348, [1339]), (64278, 1, 1358, [1350]),
    (64279, 1, 1348, [1341])]

/-! ### The cases -/

/-- A row has a letter. -/
def inRow (first count step n : ℕ) : Bool :=
  first ≤ n && n < first + count * step && (n - first) % step = 0

/-- The letter of the other case, if a row has the letter. -/
def otherCase (rows : List (ℕ × ℕ × ℕ × ℕ)) (n : ℕ) : ℕ :=
  match rows.find? fun (first, _, count, step) => inRow first count step n with
  | some (first, other, _, _) => other + (n - first)
  | none => n

/-- `str.lower`, of a character. -/
def lowerChar (c : Char) : List Char :=
  if c.toNat < 128 then [c.toLower]
  -- the capital I with a dot
  else if c.toNat = 304 then ['i', Char.ofNat 775]
  else [Char.ofNat (otherCase (casePairs ++ lowerOnly) c.toNat)]

/-- `str.lower`. -/
def lower (s : String) : String := String.ofList (s.toList.flatMap lowerChar)

/-- `str.upper`, of a character. -/
def upperChar (c : Char) : List Char :=
  if c.toNat < 128 then [c.toUpper]
  else match upperExpansions.find? fun (first, count, _, _) => inRow first count 1 c.toNat with
    | some (first, _, other, rest) =>
      Char.ofNat (other + (c.toNat - first)) :: rest.map Char.ofNat
    | none =>
      let rows := casePairs.map fun (capital, small, count, step) => (small, capital, count, step)
      [Char.ofNat (otherCase (rows ++ upperOnly) c.toNat)]

/-- `str.upper`. -/
def upper (s : String) : String := String.ofList (s.toList.flatMap upperChar)

theorem upperChar_ne_nil (c : Char) : upperChar c ≠ [] := by
  rw [upperChar]
  split
  · exact List.cons_ne_nil _ _
  · split <;> exact List.cons_ne_nil _ _

/-- The upper case of a text is empty only if the text is. -/
@[simp] theorem upper_eq_nil_iff {s : String} : upper s = "" ↔ s = "" := by
  rw [← String.toList_eq_nil_iff, ← String.toList_eq_nil_iff, upper, String.toList_ofList]
  cases s.toList with
  | nil => simp
  | cons c cs => simp [upperChar_ne_nil]

/-- The cases of a ligature, of letters beyond ASCII, and of a letter with two capitals. -/
example : upper "ﬁne žluťoučký ǆ" = "FINE ŽLUŤOUČKÝ Ǆ" ∧ lower "ŽLUŤ ΑΒΓ Ǆ" = "žluť αβγ ǆ" := by
  decide +kernel

end Python
