import LiveRoom.Text.Marks

/-!
# Composed text

A letter with an accent can be written as one character or as a letter and a mark.
`composed` chooses the one character wherever there is one: it takes all characters
apart, puts the marks behind each into the order of their classes, and joins what can
be joined (normalization form C).  Two texts that look alike for this reason become the
same text.

The pairs that are joined are those of Unicode 17, and the syllables of Hangul, which
are counted through.  A character that only ever stands for another one is left as it is.
-/

namespace LiveRoom.Text

/-! ## Pairs -/

/-- What is joined, by the second character of a pair: each first character with the
character that both make. -/
def compositionRows : List (Nat × String) :=
  [(0x300, "AÀEÈIÌOÒUÙaàeèiìoòuùÜǛüǜNǸnǹЕЀИЍеѐиѝĒḔēḕŌṐōṑWẀwẁÂẦâầĂẰăằÊỀêềÔỒôồƠỜơờƯỪưừYỲyỳἀἂ" ++
     "ἁἃἈἊἉἋἐἒἑἓἘἚἙἛἠἢἡἣἨἪἩἫἰἲἱἳἸἺἹἻὀὂὁὃὈὊὉὋὐὒὑὓὙὛὠὢὡὣὨὪὩὫαὰεὲηὴιὶοὸυὺωὼΑᾺΕῈΗῊ᾿῍ϊῒΙῚ῾῝ϋῢΥῪ" ++
     "¨῭ΟῸΩῺ"),
   (0x301, "AÁEÉIÍOÓUÚYÝaáeéiíoóuúyýCĆcćLĹlĺNŃnńRŔrŕSŚsśZŹzźÜǗüǘGǴgǵÅǺåǻÆǼæǽØǾøǿ¨΅ΑΆΕΈΗΉΙΊ" ++
     "ΟΌΥΎΩΏϊΐαάεέηήιίϋΰοόυύωώϒϓГЃКЌгѓкќÇḈçḉĒḖēḗÏḮïḯKḰkḱMḾmḿÕṌõṍŌṒōṓPṔpṕŨṸũṹWẂwẃÂẤâấĂẮăắÊẾ" ++
     "êếÔỐôốƠỚơớƯỨưứἀἄἁἅἈἌἉἍἐἔἑἕἘἜἙἝἠἤἡἥἨἬἩἭἰἴἱἵἸἼἹἽὀὄὁὅὈὌὉὍὐὔὑὕὙὝὠὤὡὥὨὬὩὭ᾿῎῾῞"),
   (0x302, "AÂEÊIÎOÔUÛaâeêiîoôuûCĈcĉGĜgĝHĤhĥJĴjĵSŜsŝWŴwŵYŶyŷZẐzẑẠẬạậẸỆẹệỌỘọộ"),
   (0x303, "AÃNÑOÕaãnñoõIĨiĩUŨuũVṼvṽÂẪâẫĂẴăẵEẼeẽÊỄêễÔỖôỗƠỠơỡƯỮưữYỸyỹ"),
   (0x304, "AĀaāEĒeēIĪiīOŌoōUŪuūÜǕüǖÄǞäǟȦǠȧǡÆǢæǣǪǬǫǭÖȪöȫÕȬõȭȮȰȯȱYȲyȳИӢиӣУӮуӯGḠgḡḶḸḷḹṚṜṛṝαᾱ" ++
     "ΑᾹιῑΙῙυῡΥῩ"),
   (0x306, "AĂaăEĔeĕGĞgğIĬiĭOŎoŏUŬuŭУЎИЙийуўЖӁжӂАӐаӑЕӖеӗȨḜȩḝẠẶạặαᾰΑᾸιῐΙῘυῠΥῨ"),
   (0x307, "CĊcċEĖeėGĠgġIİZŻzżAȦaȧOȮoȯBḂbḃDḊdḋFḞfḟHḢhḣMṀmṁNṄnṅPṖpṗRṘrṙSṠsṡŚṤśṥŠṦšṧṢṨṣṩTṪtṫ" ++
     "WẆwẇXẊxẋYẎyẏſẛ𐗒𐗉𐗚𐗤"),
   (0x308, "AÄEËIÏOÖUÜaäeëiïoöuüyÿYŸΙΪΥΫιϊυϋϒϔЕЁІЇеёіїАӒаӓӘӚәӛЖӜжӝЗӞзӟИӤиӥОӦоӧӨӪөӫЭӬэӭУӰуӱ" ++
     "ЧӴчӵЫӸыӹHḦhḧÕṎõṏŪṺūṻWẄwẅXẌxẍtẗ"),
   (0x309, "AẢaảÂẨâẩĂẲăẳEẺeẻÊỂêểIỈiỉOỎoỏÔỔôổƠỞơởUỦuủƯỬưửYỶyỷ"),
   (0x30A, "AÅaåUŮuůwẘyẙ"),
   (0x30B, "OŐoőUŰuűУӲуӳ"),
   (0x30C, "CČcčDĎdďEĚeěLĽlľNŇnňRŘrřSŠsšTŤtťZŽzžAǍaǎIǏiǐOǑoǒUǓuǔÜǙüǚGǦgǧKǨkǩƷǮʒǯjǰHȞhȟ"),
   (0x30F, "AȀaȁEȄeȅIȈiȉOȌoȍRȐrȑUȔuȕѴѶѵѷ"),
   (0x311, "AȂaȃEȆeȇIȊiȋOȎoȏRȒrȓUȖuȗ"),
   (0x313, "αἀΑἈεἐΕἘηἠΗἨιἰΙἸοὀΟὈυὐωὠΩὨρῤ"),
   (0x314, "αἁΑἉεἑΕἙηἡΗἩιἱΙἹοὁΟὉυὑΥὙωὡΩὩρῥΡῬ"),
   (0x31B, "OƠoơUƯuư"),
   (0x323, "BḄbḅDḌdḍHḤhḥKḲkḳLḶlḷMṂmṃNṆnṇRṚrṛSṢsṣTṬtṭVṾvṿWẈwẉZẒzẓAẠaạEẸeẹIỊiịOỌoọƠỢơợUỤuụƯỰ" ++
     "ưựYỴyỵ"),
   (0x324, "UṲuṳ"),
   (0x325, "AḀaḁ"),
   (0x326, "SȘsșTȚtț"),
   (0x327, "CÇcçGĢgģKĶkķLĻlļNŅnņRŖrŗSŞsşTŢtţEȨeȩDḐdḑHḨhḩ"),
   (0x328, "AĄaąEĘeęIĮiįUŲuųOǪoǫ"),
   (0x32D, "DḒdḓEḘeḙLḼlḽNṊnṋTṰtṱUṶuṷ"),
   (0x32E, "HḪhḫ"),
   (0x330, "EḚeḛIḬiḭUṴuṵ"),
   (0x331, "BḆbḇDḎdḏKḴkḵLḺlḻNṈnṉRṞrṟTṮtṯZẔzẕhẖ"),
   (0x338, "←↚→↛↔↮⇐⇍⇔⇎⇒⇏∃∄∈∉∋∌∣∤∥∦∼≁≃≄≅≇≈≉=≠≡≢≍≭<≮>≯≤≰≥≱≲≴≳≵≶≸≷≹≺⊀≻⊁⊂⊄⊃⊅⊆⊈⊇⊉⊢⊬⊨⊭⊩⊮⊫⊯≼⋠≽⋡⊑⋢" ++
     "⊒⋣⊲⋪⊳⋫⊴⋬⊵⋭"),
   (0x342, "ἀἆἁἇἈἎἉἏἠἦἡἧἨἮἩἯἰἶἱἷἸἾἹἿὐὖὑὗὙὟὠὦὡὧὨὮὩὯαᾶ¨῁ηῆ᾿῏ιῖϊῗ῾῟υῦϋῧωῶ"),
   (0x345, "ἀᾀἁᾁἂᾂἃᾃἄᾄἅᾅἆᾆἇᾇἈᾈἉᾉἊᾊἋᾋἌᾌἍᾍἎᾎἏᾏἠᾐἡᾑἢᾒἣᾓἤᾔἥᾕἦᾖἧᾗἨᾘἩᾙἪᾚἫᾛἬᾜἭᾝἮᾞἯᾟὠᾠὡᾡὢᾢὣᾣὤᾤὥᾥὦᾦ" ++
     "ὧᾧὨᾨὩᾩὪᾪὫᾫὬᾬὭᾭὮᾮὯᾯὰᾲαᾳάᾴᾶᾷΑᾼὴῂηῃήῄῆῇΗῌὼῲωῳώῴῶῷΩῼ"),
   (0x653, "\u0627\u0622"),
   (0x654, "\u0627\u0623\u0648\u0624\u064a\u0626\u06d5\u06c0\u06c1\u06c2\u06d2\u06d3"),
   (0x655, "\u0627\u0625"),
   (0x93C, "नऩरऱळऴ"),
   (0x9BE, "\u09c7\u09cb"),
   (0x9D7, "\u09c7\u09cc"),
   (0xB3E, "\u0b47\u0b4b"),
   (0xB56, "\u0b47\u0b48"),
   (0xB57, "\u0b47\u0b4c"),
   (0xBBE, "\u0bc6\u0bca\u0bc7\u0bcb"),
   (0xBD7, "ஒஔ\u0bc6\u0bcc"),
   (0xC56, "\u0c46\u0c48"),
   (0xCC2, "\u0cc6\u0cca"),
   (0xCD5, "\u0cbf\u0cc0\u0cc6\u0cc7\u0cca\u0ccb"),
   (0xCD6, "\u0cc6\u0cc8"),
   (0xD3E, "\u0d46\u0d4a\u0d47\u0d4b"),
   (0xD57, "\u0d46\u0d4c"),
   (0xDCA, "\u0dd9\u0dda\u0ddc\u0ddd"),
   (0xDCF, "\u0dd9\u0ddc"),
   (0xDDF, "\u0dd9\u0dde"),
   (0x102E, "ဥဦ"),
   (0x1B35, "ᬅᬆᬇᬈᬉᬊᬋᬌᬍᬎᬑᬒ\u1b3a\u1b3b\u1b3c\u1b3d\u1b3e\u1b40\u1b3f\u1b41\u1b42\u1b43"),
   (0x3099, "かがきぎくぐけげこごさざしじすずせぜそぞただちぢつづてでとどはばひびふぶへべほぼうゔゝゞカガキギクグケゲコゴサザシジスズセゼソゾタダチヂツヅテデトドハバヒビ" ++
     "フブヘベホボウヴワヷヰヸヱヹヲヺヽヾ"),
   (0x309A, "はぱひぴふぷへぺほぽハパヒピフプヘペホポ"),
   (0x110BA, "𑂙𑂚𑂛𑂜𑂥𑂫"),
   (0x11127, "𑄱𑄮𑄲𑄯"),
   (0x1133E, "𑍇𑍋"),
   (0x11357, "𑍇𑍌"),
   (0x113B8, "𑏅𑎸"),
   (0x113BB, "𑎄𑎅"),
   (0x113C2, "𑎋𑎎𑏅𑏂"),
   (0x113C9, "𑎂𑎃𑎐𑎑𑏅𑏉"),
   (0x114B0, "𑒹𑒼"),
   (0x114BA, "𑒹𑒻"),
   (0x114BD, "𑒹𑒾"),
   (0x115AF, "𑖸𑖺𑖹𑖻"),
   (0x11930, "𑤵𑤸"),
   (0x1611E, "𖄡𖄞"),
   (0x1611F, "𖄦𖄩𖄤𖄡𖄦𖄢𖄧"),
   (0x16120, "𖄨𖄡𖄨"),
   (0x16129, "𖄡𖄩"),
   (0x16D67, "𖵨𖵧𖵣𖵩𖵩𖵪")]

/-- The triples of a row: first character, second character, and what both make. -/
def triples (second : Char) : List Char → List (Char × Char × Char)
  | first :: both :: row => (first, second, both) :: triples second row
  | _ => []

/-- **The pairs that are joined**, each with what it makes. -/
def compositions : List (Char × Char × Char) :=
  compositionRows.flatMap fun row => triples (Char.ofNat row.1) row.2.toList

/-! ## Hangul -/

/-- The first code point of the syllables of Hangul, and how many there are. -/
def syllables : Nat × Nat := (0xAC00, 11172)

/-- The first code point of the leading consonants, and how many there are. -/
def leads : Nat × Nat := (0x1100, 19)

/-- The first code point of the vowels, and how many there are. -/
def vowels : Nat × Nat := (0x1161, 21)

/-- The code point before the trailing consonants, and how many syllables with the same
beginning there are. -/
def trails : Nat × Nat := (0x11A7, 28)

/-- The place of a character in a block. -/
def place? (block : Nat × Nat) (c : Char) : Option Nat :=
  if block.1 ≤ c.toNat && c.toNat < block.1 + block.2 then some (c.toNat - block.1) else none

/-- The syllable that two characters make. -/
def joinHangul? (first second : Char) : Option Char :=
  match place? leads first, place? vowels second with
  | some lead, some vowel =>
    some (Char.ofNat (syllables.1 + (lead * vowels.2 + vowel) * trails.2))
  | _, _ =>
    match place? syllables first, place? trails second with
    | some syllable, some trail =>
      if syllable % trails.2 = 0 && trail ≠ 0 then some (Char.ofNat (first.toNat + trail)) else none
    | _, _ => none

/-- The two characters that make a syllable. -/
def splitHangul? (c : Char) : Option (Char × Char) :=
  (place? syllables c).map fun syllable =>
    let trail := syllable % trails.2
    if trail = 0 then
      let pair := syllable / trails.2
      (Char.ofNat (leads.1 + pair / vowels.2), Char.ofNat (vowels.1 + pair % vowels.2))
    else (Char.ofNat (c.toNat - trail), Char.ofNat (trails.1 + trail))

/-! ## Taking apart and joining -/

/-- The character that two characters make. -/
def join? (first second : Char) : Option Char :=
  match joinHangul? first second with
  | some both => some both
  | none =>
    if second.toNat < 0x300 then none
    else (compositions.find? fun triple => triple.1 = first && triple.2.1 = second).map (·.2.2)

/-- The two characters that make a character. -/
def split? (c : Char) : Option (Char × Char) :=
  if c.toNat < 0xC0 then none
  else
    match splitHangul? c with
    | some pair => some pair
    | none => (compositions.find? fun triple => triple.2.2 = c).map fun triple =>
        (triple.1, triple.2.1)

/-- How often a character can be taken apart at most. -/
def deepest : Nat := 3

/-- A character taken apart so many times; only the first of two parts has parts itself. -/
def splitUp : (times : Nat) → Char → List Char
  | 0, c => [c]
  | times + 1, c =>
    match split? c with
    | none => [c]
    | some (first, second) => splitUp times first ++ [second]

/-- Puts a character in front of ordered ones, behind the marks of lower classes. -/
def insertMark (c : Char) : List Char → List Char
  | [] => [c]
  | other :: text =>
    if combiningClass other ≠ 0 && combiningClass other < combiningClass c then
      other :: insertMark c text
    else c :: other :: text

/-- The marks behind each character in the order of their classes. -/
def ordered : List Char → List Char
  | [] => []
  | c :: text => insertMark c (ordered text)

/-- Joins what follows a character with it.  `between` are the marks that stand between
them, the nearest first; a character behind a mark of its own class, or of a higher one,
cannot reach the first one. -/
def joinOn (first : Char) (between : List Char) : List Char → List Char
  | [] => first :: between.reverse
  | c :: text =>
    let reaches := match between with
      | [] => true
      | mark :: _ => combiningClass mark < combiningClass c
    match if reaches then join? first c else none with
    | some both => joinOn both between text
    | none =>
      if combiningClass c = 0 then first :: between.reverse ++ joinOn c [] text
      else joinOn first (c :: between) text

/-- **A text in composed form.** -/
def composed (text : List Char) : List Char :=
  match ordered (text.flatMap (splitUp deepest)) with
  | [] => []
  | first :: text => joinOn first [] text

end LiveRoom.Text
