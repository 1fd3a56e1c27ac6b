import BulkImport.Web.Domain.Mark

/-!
# Composed characters

A letter with a mark can be written as two characters or as one, and so can the syllables of Hangul.
The composed form of a text has one character wherever there is one, and its marks in their
canonical order.  Main statement: putting marks in order keeps every character
(`order_perm`).
-/

namespace BulkImport.Web.Domain

/-- The composed characters with a second part: its number, then each first part with the character
that the two make. -/
def compositeRows : List String :=
  ["300 aà eè iì nǹ oò uù wẁ yỳ âầ êề ôồ üǜ ăằ ēḕ ōṑ ơờ ưừ αὰ εὲ ηὴ ιὶ οὸ υὺ ωὼ ϊῒ ϋῢ еѐ иѝ ἀἂ ἁἃ
     ἐἒ ἑἓ ἠἢ ἡἣ ἰἲ ἱἳ ὀὂ ὁὃ ὐὒ ὑὓ ὠὢ ὡὣ",
    "301 aá cć eé gǵ ií kḱ lĺ mḿ nń oó pṕ rŕ sś uú wẃ yý zź âấ åǻ æǽ çḉ êế ïḯ ôố õṍ øǿ üǘ ăắ ēḗ ōṓ
     ũṹ ơớ ưứ αά εέ ηή ιί οό υύ ωώ ϊΐ ϋΰ гѓ кќ ἀἄ ἁἅ ἐἔ ἑἕ ἠἤ ἡἥ ἰἴ ἱἵ ὀὄ ὁὅ ὐὔ ὑὕ ὠὤ ὡὥ",
    "302 aâ cĉ eê gĝ hĥ iî jĵ oô sŝ uû wŵ yŷ zẑ ạậ ẹệ ọộ",
    "303 aã eẽ iĩ nñ oõ uũ vṽ yỹ âẫ êễ ôỗ ăẵ ơỡ ưữ",
    "304 aā eē gḡ iī oō uū yȳ äǟ æǣ õȭ öȫ üǖ ǫǭ ȧǡ ȯȱ αᾱ ιῑ υῡ иӣ уӯ ḷḹ ṛṝ",
    "306 aă eĕ gğ iĭ oŏ uŭ ȩḝ αᾰ ιῐ υῠ аӑ еӗ жӂ ий уў ạặ",
    "307 aȧ bḃ cċ dḋ eė fḟ gġ hḣ mṁ nṅ oȯ pṗ rṙ sṡ tṫ wẇ xẋ yẏ zż śṥ šṧ ṣṩ 𐗒𐗉 𐗚𐗤",
    "308 aä eë hḧ iï oö tẗ uü wẅ xẍ yÿ õṏ ūṻ ιϊ υϋ аӓ её жӝ зӟ иӥ оӧ уӱ чӵ ыӹ эӭ ії әӛ өӫ",
    "309 aả eẻ iỉ oỏ uủ yỷ âẩ êể ôổ ăẳ ơở ưử",
    "30A aå uů wẘ yẙ",
    "30B oő uű уӳ",
    "30C aǎ cč dď eě gǧ hȟ iǐ jǰ kǩ lľ nň oǒ rř sš tť uǔ zž üǚ ʒǯ",
    "30F aȁ eȅ iȉ oȍ rȑ uȕ ѵѷ",
    "311 aȃ eȇ iȋ oȏ rȓ uȗ",
    "313 αἀ εἐ ηἠ ιἰ οὀ ρῤ υὐ ωὠ",
    "314 αἁ εἑ ηἡ ιἱ οὁ ρῥ υὑ ωὡ",
    "31B oơ uư",
    "323 aạ bḅ dḍ eẹ hḥ iị kḳ lḷ mṃ nṇ oọ rṛ sṣ tṭ uụ vṿ wẉ yỵ zẓ ơợ ưự",
    "324 uṳ",
    "325 aḁ",
    "326 sș tț",
    "327 cç dḑ eȩ gģ hḩ kķ lļ nņ rŗ sş tţ",
    "328 aą eę iį oǫ uų",
    "32D dḓ eḙ lḽ nṋ tṱ uṷ",
    "32E hḫ",
    "330 eḛ iḭ uṵ",
    "331 bḇ dḏ hẖ kḵ lḻ nṉ rṟ tṯ zẕ",
    "338 <≮ =≠ >≯ ←↚ →↛ ↔↮ ⇐⇍ ⇒⇏ ⇔⇎ ∃∄ ∈∉ ∋∌ ∣∤ ∥∦ ∼≁ ≃≄ ≅≇ ≈≉ ≍≭ ≡≢ ≤≰ ≥≱ ≲≴ ≳≵ ≶≸ ≷≹ ≺⊀ ≻⊁ ≼⋠ ≽⋡
     ⊂⊄ ⊃⊅ ⊆⊈ ⊇⊉ ⊑⋢ ⊒⋣ ⊢⊬ ⊨⊭ ⊩⊮ ⊫⊯ ⊲⋪ ⊳⋫ ⊴⋬ ⊵⋭",
    "342 αᾶ ηῆ ιῖ υῦ ωῶ ϊῗ ϋῧ ἀἆ ἁἇ ἠἦ ἡἧ ἰἶ ἱἷ ὐὖ ὑὗ ὠὦ ὡὧ",
    "653 اآ",
    "654 اأ وؤ يئ ہۂ ےۓ ەۀ",
    "655 اإ",
    "93C नऩ रऱ ळऴ",
    "9BE েো",
    "9D7 েৌ",
    "B3E େୋ",
    "B56 େୈ",
    "B57 େୌ",
    "BBE ெொ ேோ",
    "BD7 ஒஔ ெௌ",
    "C56 ెై",
    "CC2 ೆೊ",
    "CD5 ಿೀ ೆೇ ೊೋ",
    "CD6 ೆೈ",
    "D3E െൊ േോ",
    "D57 െൌ",
    "DCA ෙේ ොෝ",
    "DCF ෙො",
    "DDF ෙෞ",
    "102E ဥဦ",
    "1B35 ᬅᬆ ᬇᬈ ᬉᬊ ᬋᬌ ᬍᬎ ᬑᬒ ᬺᬻ ᬼᬽ ᬾᭀ ᬿᭁ ᭂᭃ",
    "3099 うゔ かが きぎ くぐ けげ こご さざ しじ すず せぜ そぞ ただ ちぢ つづ てで とど はば ひび ふぶ へべ ほぼ ゝゞ ウヴ カガ キギ クグ ケゲ コゴ サザ シジ
     スズ セゼ ソゾ タダ チヂ ツヅ テデ トド ハバ ヒビ フブ ヘベ ホボ ワヷ ヰヸ ヱヹ ヲヺ ヽヾ",
    "309A はぱ ひぴ ふぷ へぺ ほぽ ハパ ヒピ フプ ヘペ ホポ",
    "110BA 𑂙𑂚 𑂛𑂜 𑂥𑂫",
    "11127 𑄱𑄮 𑄲𑄯",
    "1133E 𑍇𑍋",
    "11357 𑍇𑍌",
    "113B8 𑏅𑎸",
    "113BB 𑎄𑎅",
    "113C2 𑎋𑎎 𑏅𑏂",
    "113C9 𑎂𑎃 𑎐𑎑 𑏅𑏉",
    "114B0 𑒹𑒼",
    "114BA 𑒹𑒻",
    "114BD 𑒹𑒾",
    "115AF 𑖸𑖺 𑖹𑖻",
    "11930 𑤵𑤸",
    "1611E 𖄡𖄞",
    "1611F 𖄦 𖄡𖄦 𖄢𖄧 𖄩𖄤",
    "16120 𖄨 𖄡𖄨",
    "16129 𖄡𖄩",
    "16D67 𖵣𖵩 𖵨𖵧 𖵩𖵪"]

/-- The first part, the second part and the character that they make. -/
def composites : List (Char × Char × Char) :=
  compositeRows.flatMap fun row =>
    match Text.words row with
    | second :: pairs =>
      let b := Char.ofNat (Text.hexNumber second)
      pairs.filterMap fun pair =>
        match pair with
        | [a, c] => some (a, b, c)
        | _ => none
    | [] => []

/-- The syllable of Hangul that a consonant and a vowel make, or a syllable and a final
consonant. -/
def syllable? (a b : Char) : Option Char :=
  let (m, n) := (a.toNat, b.toNat)
  if 0x1100 ≤ m ∧ m < 0x1113 ∧ 0x1161 ≤ n ∧ n < 0x1176 then
    some (Char.ofNat (0xAC00 + (21 * (m - 0x1100) + (n - 0x1161)) * 28))
  else if 0xAC00 ≤ m ∧ m < 0xD7A4 ∧ (m - 0xAC00) % 28 = 0 ∧ 0x11A7 < n ∧ n < 0x11C3 then
    some (Char.ofNat (m + (n - 0x11A7)))
  else none

/-- The two parts of a syllable of Hangul. -/
def syllableParts? (c : Char) : Option (Char × Char) :=
  let n := c.toNat
  if 0xAC00 ≤ n ∧ n < 0xD7A4 then
    let tail := (n - 0xAC00) % 28
    let head := (n - 0xAC00) / 28
    if tail = 0 then some (Char.ofNat (0x1100 + head / 21), Char.ofNat (0x1161 + head % 21))
    else some (Char.ofNat (n - tail), Char.ofNat (0x11A7 + tail))
  else none

/-- The character that two others make. -/
def composite? (a b : Char) : Option Char :=
  (syllable? a b).or ((composites.find? fun (x, y, _) => x = a ∧ y = b).map (·.2.2))

/-- The two characters that make another. -/
def parts? (c : Char) : Option (Char × Char) :=
  (syllableParts? c).or ((composites.find? fun (_, _, z) => z = c).map fun (x, y, _) => (x, y))

/-- The parts of a character, taken apart at most so many times. -/
def takeApart : Nat → Char → List Char
  | 0, c => [c]
  | n + 1, c =>
    match parts? c with
    | some (a, b) => takeApart n a ++ [b]
    | none => [c]

/-- The parts of a character.  No character has more than four. -/
def decompose (c : Char) : List Char := takeApart 3 c

/-- Put a character in its place before others that are in order. -/
def place (c : Char) : List Char → List Char
  | [] => [c]
  | d :: ds => if 0 < markClass d ∧ markClass d < markClass c then d :: place c ds else c :: d :: ds

/-- A text with its marks in their canonical order. -/
def order (cs : List Char) : List Char := cs.foldr place []

/-- Compose a character with what follows it, where `marks` are those behind it that did not go
with it, the last one first. -/
def composeAfter (base : Char) (marks : List Char) : List Char → List Char
  | [] => base :: marks.reverse
  | c :: cs =>
    let isNext := match marks with
      | [] => true
      | m :: _ => markClass m < markClass c
    match if isNext then composite? base c else none with
    | some whole => composeAfter whole marks cs
    | none =>
      if markClass c = 0 then base :: marks.reverse ++ composeAfter c [] cs
      else composeAfter base (c :: marks) cs

/-- Compose the characters of a text that are in order.  Marks at its beginning stay. -/
def join : List Char → List Char
  | [] => []
  | c :: cs => if markClass c = 0 then composeAfter c [] cs else c :: join cs

/-- The composed form of a text. -/
def compose (cs : List Char) : List Char := join (order (cs.flatMap decompose))

theorem place_perm (c : Char) (cs : List Char) : (place c cs).Perm (c :: cs) := by
  induction cs with
  | nil => exact .refl _
  | cons d ds ih =>
    unfold place
    split
    · exact (ih.cons d).trans (.swap c d ds)
    · exact .refl _

theorem order_perm (cs : List Char) : (order cs).Perm cs := by
  induction cs with
  | nil => exact .refl _
  | cons c cs ih => exact (place_perm c (order cs)).trans (ih.cons c)

end BulkImport.Web.Domain
