import MobileSchema.Text.Letter

/-!
# Capitals at the start of words

The case map for the first letter of a word, which differs from the upper case where one character
stands for several letters, and what is made of texts with it.  For comparing texts without regard
to case there is a map of its own.
-/

namespace MobileSchema

/-- Rows `(first, last, step, distance)` of the letters whose capital at the start of a word is not
their upper case. -/
def headRows : List (Nat × Nat × Nat × Int) :=
  [(452, 452, 1, 1), (453, 453, 1, 0), (454, 454, 1, -1), (455, 455, 1, 1), (456, 456, 1, 0),
   (457, 457, 1, -1), (458, 458, 1, 1), (459, 459, 1, 0), (460, 460, 1, -1), (497, 497, 1, 1),
   (498, 498, 1, 0), (499, 499, 1, -1), (4304, 4346, 1, 0), (4349, 4351, 1, 0), (8064, 8071, 1,
   8), (8072, 8079, 1, 0), (8080, 8087, 1, 8), (8088, 8095, 1, 0), (8096, 8103, 1, 8), (8104,
   8111, 1, 0), (8115, 8115, 1, 9), (8124, 8124, 1, 0), (8131, 8131, 1, 9), (8140, 8140, 1, 0),
   (8179, 8179, 1, 9), (8188, 8188, 1, 0)]

/-- The characters whose capital at the start of a word is several characters and not their upper
case. -/
def headExpansions : List (Nat × List Nat) :=
  [(223, [83, 115]), (1415, [1333, 1410]), (8114, [8122, 837]), (8116, [902, 837]), (8119, [913,
   834, 837]), (8130, [8138, 837]), (8132, [905, 837]), (8135, [919, 834, 837]), (8178, [8186,
   837]), (8180, [911, 837]), (8183, [937, 834, 837]), (64256, [70, 102]), (64257, [70, 105]),
   (64258, [70, 108]), (64259, [70, 102, 105]), (64260, [70, 102, 108]), (64261, [83, 116]),
   (64262, [83, 116]), (64275, [1348, 1398]), (64276, [1348, 1381]), (64277, [1348, 1387]),
   (64278, [1358, 1398]), (64279, [1348, 1389])]

/-- Rows `(first, last, step, distance)` of the letters whose form for comparison is not their lower
case. -/
def foldRows : List (Nat × Nat × Nat × Int) :=
  [(181, 181, 1, 775), (383, 383, 1, -268), (837, 837, 1, 116), (962, 962, 1, 1), (976, 976, 1,
   -30), (977, 977, 1, -25), (981, 981, 1, -15), (982, 982, 1, -22), (1008, 1008, 1, -54), (1009,
   1009, 1, -48), (1013, 1013, 1, -64), (5024, 5109, 1, 0), (5112, 5117, 1, -8), (7296, 7296, 1,
   -6222), (7297, 7297, 1, -6221), (7298, 7298, 1, -6212), (7299, 7300, 1, -6210), (7301, 7301,
   1, -6211), (7302, 7302, 1, -6204), (7303, 7303, 1, -6180), (7304, 7304, 1, 35267), (7835,
   7835, 1, -58), (8126, 8126, 1, -7173), (43888, 43967, 1, -38864)]

/-- The characters whose form for comparison is several characters. -/
def foldExpansions : List (Nat × List Nat) :=
  [(223, [115, 115]), (329, [700, 110]), (496, [106, 780]), (912, [953, 776, 769]), (944, [965,
   776, 769]), (1415, [1381, 1410]), (7830, [104, 817]), (7831, [116, 776]), (7832, [119, 778]),
   (7833, [121, 778]), (7834, [97, 702]), (7838, [115, 115]), (8016, [965, 787]), (8018, [965,
   787, 768]), (8020, [965, 787, 769]), (8022, [965, 787, 834]), (8064, [7936, 953]), (8065,
   [7937, 953]), (8066, [7938, 953]), (8067, [7939, 953]), (8068, [7940, 953]), (8069, [7941,
   953]), (8070, [7942, 953]), (8071, [7943, 953]), (8072, [7936, 953]), (8073, [7937, 953]),
   (8074, [7938, 953]), (8075, [7939, 953]), (8076, [7940, 953]), (8077, [7941, 953]), (8078,
   [7942, 953]), (8079, [7943, 953]), (8080, [7968, 953]), (8081, [7969, 953]), (8082, [7970,
   953]), (8083, [7971, 953]), (8084, [7972, 953]), (8085, [7973, 953]), (8086, [7974, 953]),
   (8087, [7975, 953]), (8088, [7968, 953]), (8089, [7969, 953]), (8090, [7970, 953]), (8091,
   [7971, 953]), (8092, [7972, 953]), (8093, [7973, 953]), (8094, [7974, 953]), (8095, [7975,
   953]), (8096, [8032, 953]), (8097, [8033, 953]), (8098, [8034, 953]), (8099, [8035, 953]),
   (8100, [8036, 953]), (8101, [8037, 953]), (8102, [8038, 953]), (8103, [8039, 953]), (8104,
   [8032, 953]), (8105, [8033, 953]), (8106, [8034, 953]), (8107, [8035, 953]), (8108, [8036,
   953]), (8109, [8037, 953]), (8110, [8038, 953]), (8111, [8039, 953]), (8114, [8048, 953]),
   (8115, [945, 953]), (8116, [940, 953]), (8118, [945, 834]), (8119, [945, 834, 953]), (8124,
   [945, 953]), (8130, [8052, 953]), (8131, [951, 953]), (8132, [942, 953]), (8134, [951, 834]),
   (8135, [951, 834, 953]), (8140, [951, 953]), (8146, [953, 776, 768]), (8147, [953, 776, 769]),
   (8150, [953, 834]), (8151, [953, 776, 834]), (8162, [965, 776, 768]), (8163, [965, 776, 769]),
   (8164, [961, 787]), (8166, [965, 834]), (8167, [965, 776, 834]), (8178, [8060, 953]), (8179,
   [969, 953]), (8180, [974, 953]), (8182, [969, 834]), (8183, [969, 834, 953]), (8188, [969,
   953]), (64256, [102, 102]), (64257, [102, 105]), (64258, [102, 108]), (64259, [102, 102,
   105]), (64260, [102, 102, 108]), (64261, [115, 116]), (64262, [115, 116]), (64275, [1396,
   1398]), (64276, [1396, 1381]), (64277, [1396, 1387]), (64278, [1406, 1398]), (64279, [1396,
   1389])]

/-- Whether a case map has a row or an expansion for a character. -/
def hasImage (rows : List (Nat × Nat × Nat × Int)) (expansions : List (Nat × List Nat))
    (c : Char) : Bool :=
  expansions.any (·.1 = c.toNat) || rows.any fun (first, last, step, _) =>
    first ≤ c.toNat && c.toNat ≤ last && (c.toNat - first) % step == 0

/-- A character as a capital at the start of a word. -/
def headChar (c : Char) : List Char :=
  if hasImage headRows headExpansions c then caseImage headRows headExpansions c else upperChar c

/-- A character as it counts in a comparison without regard to case. -/
def foldChar (c : Char) : List Char :=
  if hasImage foldRows foldExpansions c then caseImage foldRows foldExpansions c else lowerChar c

/-- The text with a capital first character and all others small. -/
def capitalizedText : List Char → List Char
  | [] => []
  | c :: cs => headChar c ++ lowerTextAfter [c] cs

/-- The rest of a text, of which `before` has been read, last character first, with a capital at the
start of each run of letters. -/
def titledTextAfter (before : List Char) : List Char → List Char
  | [] => []
  | c :: rest =>
    (if before.head?.any isCased then lowerAt before c rest else headChar c) ++
      titledTextAfter (c :: before) rest

/-- The text with a capital at the start of each run of letters. -/
def titledText (cs : List Char) : List Char := titledTextAfter [] cs

/-- The rest of a text, of which `before` has been read, last character first, with small letters
for capitals and capitals for small letters. -/
def swappedTextAfter (before : List Char) : List Char → List Char
  | [] => []
  | c :: rest =>
    (if isCapital c then lowerAt before c rest else if isSmall c then upperChar c else [c]) ++
      swappedTextAfter (c :: before) rest

/-- The text with small letters for capitals and capitals for small letters. -/
def swappedText (cs : List Char) : List Char := swappedTextAfter [] cs

/-- The text as it counts in a comparison without regard to case. -/
def foldedText (cs : List Char) : List Char := cs.flatMap foldChar

/-! ### Texts in one case -/

/-- Whether a text has small letters, and no others with a case. -/
def isAllSmall (cs : List Char) : Bool :=
  cs.any isSmall && !cs.any fun c => isCapital c || isTitle c

/-- Whether a text has capital letters, and no others with a case. -/
def isAllCapital (cs : List Char) : Bool :=
  cs.any isCapital && !cs.any fun c => isSmall c || isTitle c

/-- Whether each run of letters of the rest of a text begins with its only capital; `inside` says
whether a run goes on. -/
def isTitledFrom (inside : Bool) : List Char → Bool
  | [] => true
  | c :: cs =>
    if isCapital c || isTitle c then !inside && isTitledFrom true cs
    else if isSmall c then inside && isTitledFrom true cs
    else isTitledFrom false cs

/-- Whether a text has letters with a case, and each run of them begins with its only capital. -/
def isTitled (cs : List Char) : Bool := cs.any isCased && isTitledFrom false cs

theorem not_isAllCapital_of_isAllSmall {cs : List Char} (h : isAllSmall cs = true) :
    isAllCapital cs = false := by
  simp only [isAllSmall, Bool.and_eq_true, List.any_eq_true] at h
  obtain ⟨⟨c, hc, hs⟩, -⟩ := h
  simp only [isAllCapital, Bool.and_eq_false_iff, Bool.not_eq_false', List.any_eq_true]
  exact Or.inr ⟨c, hc, by simp [hs]⟩

end MobileSchema
