import AlarmMonitor.Text.CombiningClass

/-!
# Composed form

Many characters with marks can be written as one character or as a base with marks behind it.  The
composed form takes everything apart, puts the marks of every base into the order of their classes,
and puts together what can be put together.  Characters that stand for a single other character, and
the few composed ones that are never used, are taken as they are.
-/

set_option autoImplicit false

namespace AlarmMonitor.Text

/-! ## Pairs -/

/-- Code points that join with the character before them, and in turn the characters before them and
what both become. -/
def compositions : List (Nat × String) :=
  [(0x300, "AÀEÈIÌNǸOÒUÙWẀYỲaàeèiìnǹoòuùwẁyỳ¨῭ÂẦÊỀÔỒÜǛâầêềôồüǜĂẰăằĒḔēḕŌṐōṑƠỜơờƯỪưừΑᾺΕῈΗῊΙῚΟῸ"),
   (0x300, "ΥῪΩῺαὰεὲηὴιὶοὸυὺωὼϊῒϋῢЕЀИЍеѐиѝἀἂἁἃἈἊἉἋἐἒἑἓἘἚἙἛἠἢἡἣἨἪἩἫἰἲἱἳἸἺἹἻὀὂὁὃὈὊὉὋὐὒὑὓὙὛὠὢὡὣ"),
   (0x300, "ὨὪὩὫ᾿῍῾῝"),
   (0x301, "AÁCĆEÉGǴIÍKḰLĹMḾNŃOÓPṔRŔSŚUÚWẂYÝZŹaácćeégǵiíkḱlĺmḿnńoópṕrŕsśuúwẃyýzź¨΅ÂẤÅǺÆǼÇḈÊẾ"),
   (0x301, "ÏḮÔỐÕṌØǾÜǗâấåǻæǽçḉêếïḯôốõṍøǿüǘĂẮăắĒḖēḗŌṒōṓŨṸũṹƠỚơớƯỨưứΑΆΕΈΗΉΙΊΟΌΥΎΩΏαάεέηήιίοόυύ"),
   (0x301, "ωώϊΐϋΰϒϓГЃКЌгѓкќἀἄἁἅἈἌἉἍἐἔἑἕἘἜἙἝἠἤἡἥἨἬἩἭἰἴἱἵἸἼἹἽὀὄὁὅὈὌὉὍὐὔὑὕὙὝὠὤὡὥὨὬὩὭ᾿῎῾῞"),
   (0x302, "AÂCĈEÊGĜHĤIÎJĴOÔSŜUÛWŴYŶZẐaâcĉeêgĝhĥiîjĵoôsŝuûwŵyŷzẑẠẬạậẸỆẹệỌỘọộ"),
   (0x303, "AÃEẼIĨNÑOÕUŨVṼYỸaãeẽiĩnñoõuũvṽyỹÂẪÊỄÔỖâẫêễôỗĂẴăẵƠỠơỡƯỮưữ"),
   (0x304, "AĀEĒGḠIĪOŌUŪYȲaāeēgḡiīoōuūyȳÄǞÆǢÕȬÖȪÜǕäǟæǣõȭöȫüǖǪǬǫǭȦǠȧǡȮȰȯȱΑᾹΙῙΥῩαᾱιῑυῡИӢУӮиӣуӯ"),
   (0x304, "ḶḸḷḹṚṜṛṝ"),
   (0x306, "AĂEĔGĞIĬOŎUŬaăeĕgğiĭoŏuŭȨḜȩḝΑᾸΙῘΥῨαᾰιῐυῠАӐЕӖЖӁИЙУЎаӑеӗжӂийуўẠẶạặ"),
   (0x307, "AȦBḂCĊDḊEĖFḞGĠHḢIİMṀNṄOȮPṖRṘSṠTṪWẆXẊYẎZŻaȧbḃcċdḋeėfḟgġhḣmṁnṅoȯpṗrṙsṡtṫwẇxẋyẏzżŚṤ"),
   (0x307, "śṥŠṦšṧſẛṢṨṣṩ𐗒𐗉𐗚𐗤"),
   (0x308, "AÄEËHḦIÏOÖUÜWẄXẌYŸaäeëhḧiïoötẗuüwẅxẍyÿÕṎõṏŪṺūṻΙΪΥΫιϊυϋϒϔІЇАӒЕЁЖӜЗӞИӤОӦУӰЧӴЫӸЭӬаӓ"),
   (0x308, "еёжӝзӟиӥоӧуӱчӵыӹэӭіїӘӚәӛӨӪөӫ"),
   (0x309, "AẢEẺIỈOỎUỦYỶaảeẻiỉoỏuủyỷÂẨÊỂÔỔâẩêểôổĂẲăẳƠỞơởƯỬưử"),
   (0x30A, "AÅUŮaåuůwẘyẙ"),
   (0x30B, "OŐUŰoőuűУӲуӳ"),
   (0x30C, "AǍCČDĎEĚGǦHȞIǏKǨLĽNŇOǑRŘSŠTŤUǓZŽaǎcčdďeěgǧhȟiǐjǰkǩlľnňoǒrřsštťuǔzžÜǙüǚƷǮʒǯ"),
   (0x30F, "AȀEȄIȈOȌRȐUȔaȁeȅiȉoȍrȑuȕѴѶѵѷ"),
   (0x311, "AȂEȆIȊOȎRȒUȖaȃeȇiȋoȏrȓuȗ"),
   (0x313, "ΑἈΕἘΗἨΙἸΟὈΩὨαἀεἐηἠιἰοὀρῤυὐωὠ"),
   (0x314, "ΑἉΕἙΗἩΙἹΟὉΡῬΥὙΩὩαἁεἑηἡιἱοὁρῥυὑωὡ"),
   (0x31B, "OƠUƯoơuư"),
   (0x323, "AẠBḄDḌEẸHḤIỊKḲLḶMṂNṆOỌRṚSṢTṬUỤVṾWẈYỴZẒaạbḅdḍeẹhḥiịkḳlḷmṃnṇoọrṛsṣtṭuụvṿwẉyỵzẓƠỢơợ"),
   (0x323, "ƯỰưự"),
   (0x324, "UṲuṳ"),
   (0x325, "AḀaḁ"),
   (0x326, "SȘTȚsștț"),
   (0x327, "CÇDḐEȨGĢHḨKĶLĻNŅRŖSŞTŢcçdḑeȩgģhḩkķlļnņrŗsştţ"),
   (0x328, "AĄEĘIĮOǪUŲaąeęiįoǫuų"),
   (0x32D, "DḒEḘLḼNṊTṰUṶdḓeḙlḽnṋtṱuṷ"),
   (0x32E, "HḪhḫ"),
   (0x330, "EḚIḬUṴeḛiḭuṵ"),
   (0x331, "BḆDḎKḴLḺNṈRṞTṮZẔbḇdḏhẖkḵlḻnṉrṟtṯzẕ"),
   (0x338, "<≮=≠>≯←↚→↛↔↮⇐⇍⇒⇏⇔⇎∃∄∈∉∋∌∣∤∥∦∼≁≃≄≅≇≈≉≍≭≡≢≤≰≥≱≲≴≳≵≶≸≷≹≺⊀≻⊁≼⋠≽⋡⊂⊄⊃⊅⊆⊈⊇⊉⊑⋢⊒⋣⊢⊬⊨⊭⊩⊮⊫⊯"),
   (0x338, "⊲⋪⊳⋫⊴⋬⊵⋭"),
   (0x342, "¨῁αᾶηῆιῖυῦωῶϊῗϋῧἀἆἁἇἈἎἉἏἠἦἡἧἨἮἩἯἰἶἱἷἸἾἹἿὐὖὑὗὙὟὠὦὡὧὨὮὩὯ᾿῏῾῟"),
   (0x345, "ΑᾼΗῌΩῼάᾴήῄαᾳηῃωῳώῴἀᾀἁᾁἂᾂἃᾃἄᾄἅᾅἆᾆἇᾇἈᾈἉᾉἊᾊἋᾋἌᾌἍᾍἎᾎἏᾏἠᾐἡᾑἢᾒἣᾓἤᾔἥᾕἦᾖἧᾗἨᾘἩᾙἪᾚἫᾛἬᾜἭᾝἮᾞ"),
   (0x345, "ἯᾟὠᾠὡᾡὢᾢὣᾣὤᾤὥᾥὦᾦὧᾧὨᾨὩᾩὪᾪὫᾫὬᾬὭᾭὮᾮὯᾯὰᾲὴῂὼῲᾶᾷῆῇῶῷ"),
   (0x653, "اآ"),
   (0x654, "اأوؤيئہۂےۓەۀ"),
   (0x655, "اإ"),
   (0x93C, "नऩरऱळऴ"),
   (0x9BE, "েো"),
   (0x9D7, "েৌ"),
   (0xB3E, "େୋ"),
   (0xB56, "େୈ"),
   (0xB57, "େୌ"),
   (0xBBE, "ெொேோ"),
   (0xBD7, "ஒஔெௌ"),
   (0xC56, "ెై"),
   (0xCC2, "ೆೊ"),
   (0xCD5, "ಿೀೆೇೊೋ"),
   (0xCD6, "ೆೈ"),
   (0xD3E, "െൊേോ"),
   (0xD57, "െൌ"),
   (0xDCA, "ෙේොෝ"),
   (0xDCF, "ෙො"),
   (0xDDF, "ෙෞ"),
   (0x102E, "ဥဦ"),
   (0x1B35, "ᬅᬆᬇᬈᬉᬊᬋᬌᬍᬎᬑᬒᬺᬻᬼᬽᬾᭀᬿᭁᭂᭃ"),
   (0x3099, "うゔかがきぎくぐけげこごさざしじすずせぜそぞただちぢつづてでとどはばひびふぶへべほぼゝゞウヴカガキギクグケゲコゴサザシジスズセゼソゾタダチヂツヅテデトドハバヒビ"),
   (0x3099, "フブヘベホボワヷヰヸヱヹヲヺヽヾ"),
   (0x309A, "はぱひぴふぷへぺほぽハパヒピフプヘペホポ"),
   (0x110BA, "𑂙𑂚𑂛𑂜𑂥𑂫"),
   (0x11127, "𑄱𑄮𑄲𑄯"),
   (0x1133E, "𑍇𑍋"),
   (0x11357, "𑍇𑍌"),
   (0x113B8, "𑏅𑎸"),
   (0x113BB, "𑎄𑎅"),
   (0x113C2, "𑎋𑎎𑏅𑏂"),
   (0x113C9, "𑎂𑎃𑎐𑎑𑏅𑏉"),
   (0x114B0, "𑒹𑒼"),
   (0x114BA, "𑒹𑒻"),
   (0x114BD, "𑒹𑒾"),
   (0x115AF, "𑖸𑖺𑖹𑖻"),
   (0x11930, "𑤵𑤸"),
   (0x1611E, "𖄡𖄞"),
   (0x1611F, "𖄦𖄡𖄦𖄢𖄧𖄩𖄤"),
   (0x16120, "𖄨𖄡𖄨"),
   (0x16129, "𖄡𖄩"),
   (0x16D67, "𖵣𖵪𖵨𖵩𖵪")]

/-- Two characters and what they become. -/
structure Pair where
  base : Char
  mark : Char
  composed : Char

/-- The pairs of a mark, from bases and composed characters in turn. -/
def pairsOf (mark : Char) : List Char → List Pair
  | base :: composed :: rest => ⟨base, mark, composed⟩ :: pairsOf mark rest
  | _ => []

/-- All pairs, syllables of Hangul apart. -/
def pairs : List Pair := compositions.flatMap fun (n, cs) => pairsOf (Char.ofNat n) cs.toList

/-! ## Syllables of Hangul -/

/-- The first syllable, consonant, vowel and final consonant, the last of which stands for none. -/
def firstSyllable : Nat := 0xAC00

def firstLead : Nat := 0x1100

def firstVowel : Nat := 0x1161

def noTail : Nat := 0x11A7

/-- How many vowels there are, and how many final consonants with none of them. -/
def vowelCount : Nat := 21

def tailCount : Nat := 28

/-- How many first consonants there are. -/
def leadCount : Nat := 19

/-- The parts of a syllable. -/
def syllableParts (n : Nat) : Option (List Char) :=
  let i := n - firstSyllable
  if n < firstSyllable ∨ leadCount * vowelCount * tailCount ≤ i then none
  else
    let tail := i % tailCount
    some (Char.ofNat (firstLead + i / (vowelCount * tailCount)) ::
      Char.ofNat (firstVowel + i % (vowelCount * tailCount) / tailCount) ::
      if tail = 0 then [] else [Char.ofNat (noTail + tail)])

/-- The syllable of a consonant and a vowel, or of a syllable without final consonant and one. -/
def syllable (a b : Nat) : Option Char :=
  let lead := a - firstLead
  let vowel := b - firstVowel
  let open? := a - firstSyllable
  let tail := b - noTail
  if firstLead ≤ a ∧ lead < leadCount ∧ firstVowel ≤ b ∧ vowel < vowelCount then
    some (Char.ofNat (firstSyllable + (lead * vowelCount + vowel) * tailCount))
  else if firstSyllable ≤ a ∧ open? < leadCount * vowelCount * tailCount ∧ open? % tailCount = 0 ∧
      noTail < b ∧ tail < tailCount then
    some (Char.ofNat (a + tail))
  else none

/-! ## Taking apart and putting together -/

/-- The parts of a character.  A base has at most three marks, which bounds the depth. -/
def parts : Nat → Char → List Char
  | 0, c => [c]
  | depth + 1, c =>
    match syllableParts c.toNat, pairs.find? (·.composed = c) with
    | some cs, _ => cs
    | none, some p => parts depth p.base ++ [p.mark]
    | none, none => [c]

/-- Puts a character behind others, the last one first: before it come no marks of a higher class. -/
def insertMark (c : Char) : List Char → List Char
  | [] => [c]
  | d :: rest =>
    if combiningClass c != 0 && combiningClass c < combiningClass d then d :: insertMark c rest
    else c :: d :: rest

/-- The parts of a text, the marks in the order of their classes. -/
def decomposed (cs : List Char) : List Char :=
  ((cs.flatMap (parts 4)).foldl (fun acc c => insertMark c acc) []).reverse

/-- What two characters become. -/
def composition (a b : Char) : Option Char :=
  (syllable a.toNat b.toNat).or
    ((pairs.find? fun p => p.base == a && p.mark == b).map (·.composed))

/-- Puts a base together with the characters behind it; `between` are marks that stay, the last one
first.  A mark of the same class before it, or one without class, keeps a mark from the base. -/
def joinParts (base : Char) (between : List Char) : List Char → List Char
  | [] => base :: between.reverse
  | c :: rest =>
    let isFree := !between.head?.any fun d => combiningClass c ≤ combiningClass d
    match if isFree then composition base c else none with
    | some d => joinParts d between rest
    | none =>
      if combiningClass c = 0 then base :: (between.reverse ++ joinParts c [] rest)
      else joinParts base (c :: between) rest

/-- The composed form of a text.  Marks at its front have no base. -/
def composed (cs : List Char) : List Char :=
  let ds := decomposed cs
  let isBase (c : Char) : Bool := combiningClass c == 0
  match ds.dropWhile (!isBase ·) with
  | [] => ds
  | c :: rest => ds.takeWhile (!isBase ·) ++ joinParts c [] rest

end AlarmMonitor.Text
