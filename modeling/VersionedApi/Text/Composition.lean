import VersionedApi.Text.Mark

/-!
# Composition

One form among the ways to write a text with marks.  A letter with marks may be one character or
several, and marks of different classes may stand in any order.  The composed form takes every
character apart, sorts the marks behind each letter by class, and joins what can be joined from
left to right.

Hangul syllables are joined by arithmetic, all other characters by a table.  A character is the
join of at most three, so two steps take it apart.
-/

namespace VersionedApi.Text

set_option maxRecDepth 10000

/-- The characters that join with the one before them, each with the letters they join with, every
letter followed by the join. -/
def joins : List (Nat × String) := [
  (0x0300, "aàeèiìoòuùüǜnǹеѐиѝēḕōṑwẁâầăằêềôồơờưừyỳἀἂἁἃἐἒἑἓἠἢἡἣἰἲἱἳὀὂὁὃὐὒὑὓὠὢὡὣαὰεὲηὴιὶοὸυὺωὼ"),
  (0x0300, "ϊῒϋῢ"),
  (0x0301, "aáeéiíoóuúyýcćlĺnńrŕsśzźüǘgǵåǻæǽøǿϊΐαάεέηήιίϋΰοόυύωώгѓкќçḉēḗïḯkḱmḿõṍōṓpṕũṹwẃâấăắ"),
  (0x0301, "êếôốơớưứἀἄἁἅἐἔἑἕἠἤἡἥἰἴἱἵὀὄὁὅὐὔὑὕὠὤὡὥ"), (0x0302, "aâeêiîoôuûcĉgĝhĥjĵsŝwŵyŷzẑạậẹệọộ"),
  (0x0303, "aãnñoõiĩuũvṽâẫăẵeẽêễôỗơỡưữyỹ"),
  (0x0304, "aāeēiīoōuūüǖäǟȧǡæǣǫǭöȫõȭȯȱyȳиӣуӯgḡḷḹṛṝαᾱιῑυῡ"),
  (0x0306, "aăeĕgğiĭoŏuŭийуўжӂаӑеӗȩḝạặαᾰιῐυῠ"),
  (0x0307, "cċeėgġzżaȧoȯbḃdḋfḟhḣmṁnṅpṗrṙsṡśṥšṧṣṩtṫwẇxẋyẏ𐗒𐗉𐗚𐗤"),
  (0x0308, "aäeëiïoöuüyÿιϊυϋеёіїаӓәӛжӝзӟиӥоӧөӫэӭуӱчӵыӹhḧõṏūṻwẅxẍtẗ"),
  (0x0309, "aảâẩăẳeẻêểiỉoỏôổơởuủưửyỷ"), (0x030A, "aåuůwẘyẙ"), (0x030B, "oőuűуӳ"),
  (0x030C, "cčdďeělľnňrřsštťzžaǎiǐoǒuǔüǚgǧkǩʒǯjǰhȟ"), (0x030F, "aȁeȅiȉoȍrȑuȕѵѷ"),
  (0x0311, "aȃeȇiȋoȏrȓuȗ"), (0x0313, "αἀεἐηἠιἰοὀυὐωὠρῤ"), (0x0314, "αἁεἑηἡιἱοὁυὑωὡρῥ"),
  (0x031B, "oơuư"), (0x0323, "bḅdḍhḥkḳlḷmṃnṇrṛsṣtṭvṿwẉzẓaạeẹiịoọơợuụưựyỵ"), (0x0324, "uṳ"),
  (0x0325, "aḁ"), (0x0326, "sștț"), (0x0327, "cçgģkķlļnņrŗsştţeȩdḑhḩ"), (0x0328, "aąeęiįuųoǫ"),
  (0x032D, "dḓeḙlḽnṋtṱuṷ"), (0x032E, "hḫ"), (0x0330, "eḛiḭuṵ"), (0x0331, "bḇdḏkḵlḻnṉrṟtṯzẕhẖ"),
  (0x0338, "←↚→↛↔↮⇐⇍⇔⇎⇒⇏∃∄∈∉∋∌∣∤∥∦∼≁≃≄≅≇≈≉=≠≡≢≍≭<≮>≯≤≰≥≱≲≴≳≵≶≸≷≹≺⊀≻⊁⊂⊄⊃⊅⊆⊈⊇⊉⊢⊬⊨⊭⊩⊮⊫⊯≼⋠≽⋡⊑⋢⊒⋣"),
  (0x0338, "⊲⋪⊳⋫⊴⋬⊵⋭"), (0x0342, "ἀἆἁἇἠἦἡἧἰἶἱἷὐὖὑὗὠὦὡὧαᾶηῆιῖϊῗυῦϋῧωῶ"), (0x0653, "اآ"),
  (0x0654, "اأوؤيئەۀہۂےۓ"), (0x0655, "اإ"), (0x093C, "नऩरऱळऴ"), (0x09BE, "\u09c7\u09cb"),
  (0x09D7, "\u09c7\u09cc"), (0x0B3E, "\u0b47\u0b4b"), (0x0B56, "\u0b47\u0b48"),
  (0x0B57, "\u0b47\u0b4c"), (0x0BBE, "\u0bc6\u0bca\u0bc7\u0bcb"), (0x0BD7, "ஒஔ\u0bc6\u0bcc"),
  (0x0C56, "\u0c46\u0c48"), (0x0CC2, "\u0cc6\u0cca"),
  (0x0CD5, "\u0cbf\u0cc0\u0cc6\u0cc7\u0cca\u0ccb"), (0x0CD6, "\u0cc6\u0cc8"),
  (0x0D3E, "\u0d46\u0d4a\u0d47\u0d4b"), (0x0D57, "\u0d46\u0d4c"),
  (0x0DCA, "\u0dd9\u0dda\u0ddc\u0ddd"), (0x0DCF, "\u0dd9\u0ddc"), (0x0DDF, "\u0dd9\u0dde"),
  (0x102E, "ဥဦ"),
  (0x1B35, "ᬅᬆᬇᬈᬉᬊᬋᬌᬍᬎᬑᬒ\u1b3a\u1b3b\u1b3c\u1b3d\u1b3e\u1b40\u1b3f\u1b41\u1b42\u1b43"),
  (0x3099, "かがきぎくぐけげこごさざしじすずせぜそぞただちぢつづてでとどはばひびふぶへべほぼうゔゝゞカガキギクグケゲコゴサザシジスズセゼソゾタダチヂツヅテデトドハバヒビフブ"),
  (0x3099, "ヘベホボウヴワヷヰヸヱヹヲヺヽヾ"), (0x309A, "はぱひぴふぷへぺほぽハパヒピフプヘペホポ"), (0x110BA, "𑂙𑂚𑂛𑂜𑂥𑂫"),
  (0x11127, "𑄱𑄮𑄲𑄯"), (0x1133E, "𑍇𑍋"), (0x11357, "𑍇𑍌"), (0x113B8, "𑏅𑎸"), (0x113BB, "𑎄𑎅"),
  (0x113C2, "𑎋𑎎𑏅𑏂"), (0x113C9, "𑎂𑎃𑎐𑎑𑏅𑏉"), (0x114B0, "𑒹𑒼"), (0x114BA, "𑒹𑒻"), (0x114BD, "𑒹𑒾"),
  (0x115AF, "𑖸𑖺𑖹𑖻"), (0x11930, "𑤵𑤸"), (0x1611E, "𖄡𖄞"), (0x1611F, "𖄦𖄩𖄤𖄡𖄦𖄢𖄧"), (0x16120, "𖄨𖄡𖄨"),
  (0x16129, "𖄡𖄩"), (0x16D67, "𖵨𖵧𖵣𖵩𖵩𖵪")]

/-- The join of two characters of the table. -/
def joinTable? (a b : Char) : Option Char :=
  joins.findSome? fun (second, pairs) => if second = b.toNat then find pairs.toList else none
where
  /-- The character behind the first one of a pair. -/
  find : List Char → Option Char
    | x :: y :: rest => if x = a then some y else find rest
    | _ => none

/-- The parts of a character of the table. -/
def partTable? (c : Char) : Option (Char × Char) :=
  joins.findSome? fun (second, pairs) => (find pairs.toList).map fun a => (a, Char.ofNat second)
where
  /-- The character before the second one of a pair. -/
  find : List Char → Option Char
    | x :: y :: rest => if y = c then some x else find rest
    | _ => none

/-! ## Hangul -/

/-- The syllable of a leading consonant and a vowel, or of such a syllable and a closing
consonant. -/
def joinHangul? (a b : Char) : Option Char :=
  let a := a.toNat
  let b := b.toNat
  if 0x1100 ≤ a ∧ a < 0x1113 ∧ 0x1161 ≤ b ∧ b < 0x1176 then
    some (Char.ofNat (0xAC00 + ((a - 0x1100) * 21 + (b - 0x1161)) * 28))
  else if 0xAC00 ≤ a ∧ a < 0xD7A4 ∧ (a - 0xAC00) % 28 = 0 ∧ 0x11A8 ≤ b ∧ b < 0x11C3 then
    some (Char.ofNat (a + (b - 0x11A7)))
  else none

/-- The parts of a syllable. -/
def partHangul? (c : Char) : Option (Char × Char) :=
  let s := c.toNat - 0xAC00
  if c.toNat < 0xAC00 ∨ 0xD7A4 ≤ c.toNat then none
  else if s % 28 = 0 then
    some (Char.ofNat (0x1100 + s / 588), Char.ofNat (0x1161 + s % 588 / 28))
  else some (Char.ofNat (c.toNat - s % 28), Char.ofNat (0x11A7 + s % 28))

/-! ## The composed form -/

/-- The join of two characters, the second of which is no character before the first mark. -/
def join? (a b : Char) : Option Char :=
  if b.toNat < 0x300 then none else joinHangul? a b <|> joinTable? a b

/-- A character taken apart in at most the given number of steps. -/
def takeApart : Nat → Char → List Char
  | 0, c => [c]
  | n + 1, c =>
      if c.toNat < 0xC0 then [c]
      else
        match partHangul? c <|> partTable? c with
        | some (a, b) => takeApart n a ++ [b]
        | none => [c]

/-- A character put in front of sorted marks. -/
def sortInto (c : Char) : List Char → List Char
  | [] => [c]
  | d :: ds =>
      if 0 < markClass d && markClass d < markClass c then d :: sortInto c ds else c :: d :: ds

/-- A text with the marks behind each letter sorted by class. -/
def sortMarks (cs : List Char) : List Char := cs.foldr sortInto []

/-- The joins of a letter with the characters behind it, and of what follows them.  The marks that
the letter passed over, last one first, stand between them; a character that has the class of the
last of them, or a lower one, does not reach the letter. -/
def joinFrom (letter : Char) (passed : List Char) : List Char → List Char
  | [] => letter :: passed.reverse
  | c :: cs =>
      let reaches :=
        match passed with
        | [] => true
        | last :: _ => markClass last < markClass c
      match if reaches then join? letter c else none with
      | some joined => joinFrom joined passed cs
      | none =>
          if markClass c = 0 then letter :: passed.reverse ++ joinFrom c [] cs
          else joinFrom letter (c :: passed) cs

/-- The composed form of a text. -/
def compose (cs : List Char) : List Char :=
  match sortMarks (cs.flatMap (takeApart 2)) with
  | [] => []
  | c :: rest => joinFrom c [] rest

end VersionedApi.Text
