import SessionTokens.Text.CharRange
import SessionTokens.Text.Printable

/-! # What the characters of a domain stand for

A domain may be written with capitals, with letters of other widths or styles, with characters that
abbreviate a text, and with characters that nobody sees. Each of them stands for other characters or
for none; some characters may not be written at all.
-/

namespace SessionTokens.Url

open Text

/-- Characters that stand for one character each: the first of them, the distance from one to the
next, and what they stand for. -/
structure MappedRun where
  first : Nat
  step : Nat
  targets : String

/-- Characters that stand for a text each: the first of them, the distance from one to the next, and
what they stand for. -/
structure ExpandedRun where
  first : Nat
  step : Nat
  targets : List String

/-- The place in a run of a character, counted from the first one. -/
def placeInRun? (first step n : Nat) : Option Nat :=
  if n < first || (n - first) % step != 0 then none else some ((n - first) / step)

/-- Latin letters. -/
def mappedLatin : List MappedRun := [
  ⟨0xA0, 1, " "⟩, ⟨0xAA, 1, "a"⟩, ⟨0xB2, 1, "23"⟩, ⟨0xB5, 1, "μ"⟩, ⟨0xB9, 1, "1o"⟩,
  ⟨0xC0, 1, "àáâãäåæçèéêëìíîïðñòóôõö"⟩, ⟨0xD8, 1, "øùúûüýþ"⟩,
  ⟨0x100, 2, "āăąćĉċčďđēĕėęěĝğġģĥħĩīĭį"⟩, ⟨0x134, 1, "ĵ"⟩, ⟨0x136, 1, "ķ"⟩, ⟨0x139, 2, "ĺļľ"⟩,
  ⟨0x141, 2, "łńņň"⟩, ⟨0x14A, 2, "ŋōŏőœŕŗřśŝşšţťŧũūŭůűųŵŷÿ"⟩, ⟨0x179, 2, "źżžsɓ"⟩,
  ⟨0x182, 2, "ƃƅɔ"⟩, ⟨0x187, 2, "ƈɖƌ"⟩, ⟨0x18A, 1, "ɗ"⟩, ⟨0x18E, 1, "ǝəɛƒ"⟩, ⟨0x193, 1, "ɠɣ"⟩,
  ⟨0x196, 1, "ɩɨƙ"⟩, ⟨0x19C, 1, "ɯɲ"⟩, ⟨0x19F, 1, "ɵơ"⟩, ⟨0x1A2, 2, "ƣƥʀ"⟩, ⟨0x1A7, 1, "ƨ"⟩,
  ⟨0x1A9, 1, "ʃ"⟩, ⟨0x1AC, 1, "ƭ"⟩, ⟨0x1AE, 1, "ʈư"⟩, ⟨0x1B1, 2, "ʊƴƶʒ"⟩, ⟨0x1B2, 1, "ʋ"⟩,
  ⟨0x1B8, 1, "ƹ"⟩, ⟨0x1BC, 1, "ƽ"⟩, ⟨0x1CD, 2, "ǎǐǒǔǖǘǚǜ"⟩, ⟨0x1DE, 2, "ǟǡǣǥǧǩǫǭǯ"⟩,
  ⟨0x1F4, 2, "ǵƕǹǻǽǿȁȃȅȇȉȋȍȏȑȓȕȗșțȝȟƞȣȥȧȩȫȭȯȱȳ"⟩, ⟨0x1F7, 1, "ƿ"⟩, ⟨0x23A, 1, "ⱥȼ"⟩,
  ⟨0x23D, 1, "ƚⱦ"⟩, ⟨0x241, 2, "ɂƀʌ"⟩, ⟨0x244, 2, "ʉɇɉɋɍɏ"⟩, ⟨0x2B0, 1, "hɦjrɹɻʁwy"⟩,
  ⟨0x2E0, 1, "ɣlsxʕ"⟩, ⟨0x340, 1, "\u0300\u0301"⟩, ⟨0x343, 1, "\u0313"⟩, ⟨0x345, 1, "ι"⟩]

/-- Letters from Greek to Georgian. -/
def mappedGreekToGeorgian : List MappedRun := [
  ⟨0x370, 2, "ͱͳʹͷ"⟩, ⟨0x37E, 1, ";ϳ"⟩, ⟨0x386, 1, "ά·έήί"⟩, ⟨0x38C, 1, "ό"⟩, ⟨0x38E, 1, "ύώ"⟩,
  ⟨0x391, 1, "αβγδεζηθικλμνξοπρ"⟩, ⟨0x3A3, 1, "στυφχψωϊϋ"⟩, ⟨0x3CF, 1, "ϗβθυύϋφπ"⟩,
  ⟨0x3D8, 2, "ϙϛϝϟϡϣϥϧϩϫϭϯκσθ"⟩, ⟨0x3F1, 1, "ρ"⟩, ⟨0x3F5, 2, "εϸσ"⟩, ⟨0x3FA, 1, "ϻ"⟩,
  ⟨0x3FD, 1, "ͻͼͽѐёђѓєѕіїјљњћќѝўџабвгдежзийклмнопрстуф"⟩, ⟨0x425, 1, "хцчшщъыьэюя"⟩,
  ⟨0x460, 2, "ѡѣѥѧѩѫѭѯѱѳѵѷѹѻѽѿҁ"⟩, ⟨0x48A, 2, "ҋҍҏґғҕҗҙқҝҟҡңҥҧҩҫҭүұҳҵҷҹһҽҿӏ"⟩,
  ⟨0x4C1, 2, "ӂӄӆӈӊӌӎ"⟩, ⟨0x4D0, 2, "ӑӓӕӗәӛӝӟӡӣӥӧөӫӭӯӱӳӵӷӹӻӽӿԁԃԅԇԉԋԍԏԑԓԕԗԙԛԝԟ"⟩,
  ⟨0x520, 2, "ԡԣԥԧԩԫԭԯ"⟩, ⟨0x531, 1, "աբգդեզէըթժիլխծկհձղճմյնշոչպջռսվտրցւփքօֆ"⟩, ⟨0xF0C, 1, "་"⟩,
  ⟨0x10A0, 1, "ⴀⴁⴂⴃⴄⴅⴆⴇⴈⴉⴊⴋⴌⴍⴎⴏⴐⴑⴒⴓⴔⴕⴖⴗⴘⴙⴚⴛⴜⴝⴞⴟⴠⴡⴢⴣⴤⴥ"⟩, ⟨0x10C7, 1, "ⴧ"⟩, ⟨0x10CD, 1, "ⴭ"⟩,
  ⟨0x10FC, 1, "ნ"⟩, ⟨0x13F8, 1, "ᏰᏱᏲᏳᏴᏵ"⟩, ⟨0x1C80, 1, "вдосттъѣꙋᲊ"⟩,
  ⟨0x1C90, 1, "აბგდევზთიკლმნოპჟრსტუფქღყშჩცძწჭხჯჰჱჲჳჴჵჶჷ"⟩, ⟨0x1CB8, 1, "ჸჹჺ"⟩, ⟨0x1CBD, 1, "ჽჾჿ"⟩,
  ⟨0x1D2C, 2, "abdǝhjlnoptwɐᴂdəɜ"⟩, ⟨0x1D2D, 1, "æ"⟩, ⟨0x1D31, 2, "egikm"⟩,
  ⟨0x1D3D, 2, "ȣruaɑbeɛgkŋɔᴗtᴝvβδχrvγφ"⟩, ⟨0x1D50, 2, "moᴖpuɯᴥγφiuβρχ"⟩, ⟨0x1D78, 1, "н"⟩,
  ⟨0x1D9B, 1, "ɒcɕðɜfɟɡɥɨɩɪᵻʝɭᶅʟɱɰɲɳɴɵɸʂʃƫʉʊᴜʋʌzʐʑʒθ"⟩]

/-- Further Latin and Greek letters. -/
def mappedExtendedLatin : List MappedRun := [
  ⟨0x1E00, 2, "ḁḃḅḇḉḋḍḏḑḓḕḗḙḛḝḟḡḣḥḧḩḫḭḯḱḳḵḷḹḻḽḿṁṃṅṇṉṋṍṏ"⟩,
  ⟨0x1E50, 2, "ṑṓṕṗṙṛṝṟṡṣṥṧṩṫṭṯṱṳṵṷṹṻṽṿẁẃẅẇẉẋẍẏẑẓẕ"⟩, ⟨0x1E9B, 1, "ṡ"⟩,
  ⟨0x1E9E, 2, "ßạảấầẩẫậắằẳẵặẹẻẽếềểễệỉịọỏốồổỗộớờởỡợụủứừử"⟩, ⟨0x1EEE, 2, "ữựỳỵỷỹỻỽỿ"⟩,
  ⟨0x1F08, 1, "ἀἁἂἃἄἅἆἇ"⟩, ⟨0x1F18, 1, "ἐἑἒἓἔἕ"⟩, ⟨0x1F28, 1, "ἠἡἢἣἤἥἦἧ"⟩,
  ⟨0x1F38, 1, "ἰἱἲἳἴἵἶἷ"⟩, ⟨0x1F48, 1, "ὀὁὂὃὄὅ"⟩, ⟨0x1F59, 2, "ὑὓὕὗ"⟩, ⟨0x1F68, 1, "ὠὡὢὣὤὥὦὧ"⟩,
  ⟨0x1F71, 2, "άέήίόύώ"⟩, ⟨0x1FB8, 1, "ᾰᾱὰά"⟩, ⟨0x1FBE, 1, "ι"⟩, ⟨0x1FC8, 1, "ὲέὴή"⟩,
  ⟨0x1FD3, 1, "ΐ"⟩, ⟨0x1FD8, 1, "ῐῑὶί"⟩, ⟨0x1FE3, 1, "ΰ"⟩, ⟨0x1FE8, 1, "ῠῡὺύῥ"⟩, ⟨0x1FEF, 1, "`"⟩,
  ⟨0x1FF8, 1, "ὸόὼώ"⟩]

/-- Symbols and letter-like characters. -/
def mappedSymbols : List MappedRun := [
  ⟨0x2000, 1, "           "⟩, ⟨0x2011, 1, "‐"⟩, ⟨0x202F, 1, " "⟩, ⟨0x205F, 1, " "⟩,
  ⟨0x2070, 1, "0i"⟩, ⟨0x2074, 1, "456789+−=()n0123456789+−=()"⟩, ⟨0x2090, 1, "aeoxəhklmnpst"⟩,
  ⟨0x2102, 1, "c"⟩, ⟨0x2107, 1, "ɛ"⟩, ⟨0x210A, 1, "ghhhhħiill"⟩, ⟨0x2115, 1, "n"⟩,
  ⟨0x2119, 1, "pqrrr"⟩, ⟨0x2124, 2, "zωzkb"⟩, ⟨0x212B, 2, "åcefm\u05d0\u05d2i"⟩,
  ⟨0x2130, 2, "eⅎo\u05d1\u05d3"⟩, ⟨0x213C, 1, "πγγπ∑"⟩, ⟨0x2145, 1, "ddeij"⟩, ⟨0x2160, 1, "i"⟩,
  ⟨0x2164, 1, "v"⟩, ⟨0x2169, 1, "x"⟩, ⟨0x216C, 1, "lcdmi"⟩, ⟨0x2174, 1, "v"⟩, ⟨0x2179, 1, "x"⟩,
  ⟨0x217C, 1, "lcdm"⟩, ⟨0x2183, 1, "ↄ"⟩, ⟨0x2329, 1, "〈〉"⟩, ⟨0x2460, 1, "123456789"⟩,
  ⟨0x24B6, 1, "abcdefghijklmnopqrstuvwxyzabcdefghijklmn"⟩, ⟨0x24DE, 1, "opqrstuvwxyz0"⟩,
  ⟨0x2C00, 1, "ⰰⰱⰲⰳⰴⰵⰶⰷⰸⰹⰺⰻⰼⰽⰾⰿⱀⱁⱂⱃⱄⱅⱆⱇⱈⱉⱊⱋⱌⱍⱎⱏⱐⱑⱒⱓⱔⱕⱖⱗ"⟩, ⟨0x2C28, 1, "ⱘⱙⱚⱛⱜⱝⱞⱟ"⟩,
  ⟨0x2C60, 2, "ⱡɫɽ"⟩, ⟨0x2C63, 1, "ᵽ"⟩, ⟨0x2C67, 2, "ⱨⱪⱬɑɐ"⟩, ⟨0x2C6E, 2, "ɱɒⱳ"⟩,
  ⟨0x2C75, 1, "ⱶ"⟩, ⟨0x2C7C, 2, "jȿⲁⲃⲅⲇⲉⲋⲍⲏⲑⲓⲕⲗⲙⲛⲝⲟⲡⲣⲥⲧⲩⲫⲭⲯⲱⲳⲵⲷⲹⲻⲽⲿⳁⳃⳅⳇⳉⳋ"⟩, ⟨0x2C7D, 1, "v"⟩,
  ⟨0x2C7F, 1, "ɀ"⟩, ⟨0x2CCC, 2, "ⳍⳏⳑⳓⳕⳗⳙⳛⳝⳟⳡⳣ"⟩, ⟨0x2CEB, 1, "ⳬ"⟩, ⟨0x2CED, 1, "ⳮ"⟩,
  ⟨0x2CF2, 1, "ⳳ"⟩, ⟨0x2D6F, 1, "ⵡ"⟩, ⟨0x2E9F, 1, "母"⟩, ⟨0x2EF3, 1, "龟"⟩,
  ⟨0x2F00, 1, "一丨丶丿乙亅二亠人儿入八冂冖冫几凵刀力勹匕匚匸十卜卩厂厶又口囗土士夂夊夕大女子宀"⟩,
  ⟨0x2F28, 1, "寸小尢尸屮山巛工己巾干幺广廴廾弋弓彐彡彳心戈戶手支攴文斗斤方无日曰月木欠止歹殳毋"⟩,
  ⟨0x2F50, 1, "比毛氏气水火爪父爻爿片牙牛犬玄玉瓜瓦甘生用田疋疒癶白皮皿目矛矢石示禸禾穴立竹米糸"⟩,
  ⟨0x2F78, 1, "缶网羊羽老而耒耳聿肉臣自至臼舌舛舟艮色艸虍虫血行衣襾見角言谷豆豕豸貝赤走足身車辛"⟩,
  ⟨0x2FA0, 1, "辰辵邑酉釆里金長門阜隶隹雨靑非面革韋韭音頁風飛食首香馬骨高髟鬥鬯鬲鬼魚鳥鹵鹿麥麻"⟩, ⟨0x2FC8, 1, "黃黍黑黹黽鼎鼓鼠鼻齊齒龍龜龠"⟩]

/-- East Asian characters, and further letters of the first plane. -/
def mappedEastAsian : List MappedRun := [
  ⟨0x3000, 1, " "⟩, ⟨0x3002, 1, "."⟩, ⟨0x3036, 2, "〒十卅"⟩, ⟨0x3039, 1, "卄"⟩,
  ⟨0x3131, 1, "ᄀᄁᆪᄂᆬᆭᄃᄄᄅᆰᆱᆲᆳᆴᆵᄚᄆᄇᄈᄡᄉᄊᄋᄌᄍᄎᄏᄐᄑ하ᅢᅣᅤᅥᅦᅧᅨᅩᅪ"⟩,
  ⟨0x3159, 2, "ᅫᅭᅯᅱᅳᅵᄔᇇᇌᇓᇙᇝᄝᄠᄣᄩᄬᄮᄲᅀᅌᇲᅘᆄᆈᆒᆞ"⟩, ⟨0x315A, 2, "ᅬᅮᅰᅲᅴ"⟩,
  ⟨0x3166, 2, "ᄕᇈᇎᇗᄜᇟᄞᄢᄧᄫᄭᄯᄶᅇᇱᅗᅙᆅᆑᆔᆡ"⟩, ⟨0x3192, 1, "一二三四上中下甲乙丙丁天地人"⟩, ⟨0x3244, 1, "問幼文箏"⟩,
  ⟨0x3260, 1, "ᄀᄂᄃᄅᄆᄇᄉᄋᄌᄎᄏᄐᄑᄒ가나다라마바사아자차카타파하"⟩, ⟨0x327E, 2, "우一三五七九月水金日有名財労男適印項写上下右宗監資夜"⟩,
  ⟨0x3281, 2, "二四六八十火木土株社特祝秘女優注休正中左医学企協"⟩,
  ⟨0x32D0, 1, "アイウエオカキクケコサシスセソタチツテトナニヌネノハヒフヘホマミムメモヤユヨラリ"⟩, ⟨0x32F8, 1, "ルレロワヰヱヲ"⟩,
  ⟨0xA640, 2, "ꙁꙃꙅꙇꙉꙋꙍꙏꙑꙓꙕꙗꙙꙛꙝꙟꙡꙣꙥꙧꙩꙫꙭ"⟩, ⟨0xA680, 2, "ꚁꚃꚅꚇꚉꚋꚍꚏꚑꚓꚕꚗꚙꚛъ"⟩, ⟨0xA69D, 1, "ь"⟩,
  ⟨0xA722, 2, "ꜣꜥꜧꜩꜫꜭꜯ"⟩, ⟨0xA732, 2, "ꜳꜵꜷꜹꜻꜽꜿꝁꝃꝅꝇꝉꝋꝍꝏꝑꝓꝕꝗꝙꝛꝝꝟꝡꝣꝥꝧꝩꝫꝭꝯꝯ"⟩, ⟨0xA779, 2, "ꝺꝼᵹ"⟩,
  ⟨0xA77E, 2, "ꝿꞁꞃꞅꞇ"⟩, ⟨0xA78B, 1, "ꞌ"⟩, ⟨0xA78D, 1, "ɥ"⟩, ⟨0xA790, 1, "ꞑ"⟩, ⟨0xA792, 1, "ꞓ"⟩,
  ⟨0xA796, 2, "ꞗꞙꞛꞝꞟꞡꞣꞥꞧꞩɦɡɪʞʝꞵꞷꞹꞻꞽꞿꟁꟃꞔᶎ"⟩, ⟨0xA7AB, 1, "ɜ"⟩, ⟨0xA7AD, 1, "ɬ"⟩, ⟨0xA7B1, 1, "ʇ"⟩,
  ⟨0xA7B3, 1, "ꭓ"⟩, ⟨0xA7C5, 2, "ʂꟈꟊɤ"⟩, ⟨0xA7CC, 2, "ꟍ꟏ꟑꟓꟕꟗꟙꟛƛ"⟩, ⟨0xA7F1, 1, "scfqꟶ"⟩,
  ⟨0xA7F8, 1, "ħœ"⟩, ⟨0xAB5C, 1, "ꜧꬷɫꭒ"⟩, ⟨0xAB69, 1, "ʍ"⟩,
  ⟨0xAB70, 1, "ᎠᎡᎢᎣᎤᎥᎦᎧᎨᎩᎪᎫᎬᎭᎮᎯᎰᎱᎲᎳᎴᎵᎶᎷᎸᎹᎺᎻᎼᎽᎾᎿᏀᏁᏂᏃᏄᏅᏆᏇ"⟩,
  ⟨0xAB98, 1, "ᏈᏉᏊᏋᏌᏍᏎᏏᏐᏑᏒᏓᏔᏕᏖᏗᏘᏙᏚᏛᏜᏝᏞᏟᏠᏡᏢᏣᏤᏥᏦᏧᏨᏩᏪᏫᏬᏭᏮᏯ"⟩,
  ⟨0xF900, 1, "豈更車賈滑串句龜龜契金喇奈懶癩羅蘿螺裸邏樂洛烙珞落酪駱亂卵欄爛蘭鸞嵐濫藍襤拉臘蠟"⟩,
  ⟨0xF928, 1, "廊朗浪狼郎來冷勞擄櫓爐盧老蘆虜路露魯鷺碌祿綠菉錄鹿論壟弄籠聾牢磊賂雷壘屢樓淚漏累"⟩,
  ⟨0xF950, 1, "縷陋勒肋凜凌稜綾菱陵讀拏樂諾丹寧怒率異北磻便復不泌數索參塞省葉說殺辰沈拾若掠略亮"⟩,
  ⟨0xF978, 1, "兩凉梁糧良諒量勵呂女廬旅濾礪閭驪麗黎力曆歷轢年憐戀撚漣煉璉秊練聯輦蓮連鍊列劣咽烈"⟩,
  ⟨0xF9A0, 1, "裂說廉念捻殮簾獵令囹寧嶺怜玲瑩羚聆鈴零靈領例禮醴隸惡了僚寮尿料樂燎療蓼遼龍暈阮劉"⟩,
  ⟨0xF9C8, 1, "杻柳流溜琉留硫紐類六戮陸倫崙淪輪律慄栗率隆利吏履易李梨泥理痢罹裏裡里離匿溺吝燐璘"⟩,
  ⟨0xF9F0, 1, "藺隣鱗麟林淋臨立笠粒狀炙識什茶刺切度拓糖宅洞暴輻行降見廓兀嗀"⟩, ⟨0xFA10, 1, "塚"⟩, ⟨0xFA12, 1, "晴"⟩,
  ⟨0xFA15, 1, "凞猪益礼神祥福靖精羽"⟩, ⟨0xFA20, 1, "蘒"⟩, ⟨0xFA22, 1, "諸"⟩, ⟨0xFA25, 1, "逸都"⟩,
  ⟨0xFA2A, 1, "飯飼館鶴郞隷侮僧免勉勤卑喝嘆器塀墨層屮悔慨憎懲敏既暑梅海渚漢煮爫琢碑社祉祈祐祖祝"⟩,
  ⟨0xFA52, 1, "禍禎穀突節練縉繁署者臭艹艹著褐視謁謹賓贈辶逸難響頻恵𤋮舘"⟩,
  ⟨0xFA70, 1, "並况全侀充冀勇勺喝啕喙嗢塚墳奄奔婢嬨廒廙彩徭惘慎愈憎慠懲戴揄搜摒敖晴朗望杖歹殺流"⟩,
  ⟨0xFA98, 1, "滛滋漢瀞煮瞧爵犯猪瑱甆画瘝瘟益盛直睊着磌窱節类絛練缾者荒華蝹襁覆視調諸請謁諾諭謹"⟩,
  ⟨0xFAC0, 1, "變贈輸遲醙鉶陼難靖韛響頋頻鬒龜𢡊𢡄𣏕㮝䀘䀹𥉉𥳐𧻓齃龎"⟩]

/-- Forms of letters that have others of their own. -/
def mappedForms : List MappedRun := [
  ⟨0xFB20, 1, "\u05e2\u05d0\u05d3\u05d4\u05db\u05dc\u05dd\u05e8\u05ea+"⟩,
  ⟨0xFB50, 1, "\u0671\u0671\u067b\u067b\u067b\u067b\u067e\u067e\u067e\u067e\u0680\u0680\u0680" ++
    "\u0680\u067a\u067a\u067a\u067a\u067f\u067f\u067f\u067f\u0679\u0679\u0679\u0679\u06a4" ++
    "\u06a4\u06a4\u06a4\u06a6\u06a6\u06a6\u06a6\u0684\u0684\u0684\u0684\u0683\u0683"⟩,
  ⟨0xFB78, 1, "\u0683\u0683\u0686\u0686\u0686\u0686\u0687\u0687\u0687\u0687\u068d\u068d\u068c" ++
    "\u068c\u068e\u068e\u0688\u0688\u0698\u0698\u0691\u0691\u06a9\u06a9\u06a9\u06a9\u06af" ++
    "\u06af\u06af\u06af\u06b3\u06b3\u06b3\u06b3\u06b1\u06b1\u06b1\u06b1\u06ba\u06ba"⟩,
  ⟨0xFBA0, 1, "\u06bb\u06bb\u06bb\u06bb\u06c0\u06c0\u06c1\u06c1\u06c1\u06c1\u06be\u06be\u06be" ++
    "\u06be\u06d2\u06d2\u06d3\u06d3"⟩,
  ⟨0xFBD3, 1, "\u06ad\u06ad\u06ad\u06ad\u06c7\u06c7\u06c6\u06c6\u06c8\u06c8"⟩,
  ⟨0xFBDE, 1, "\u06cb\u06cb\u06c5\u06c5\u06c9\u06c9\u06d0\u06d0\u06d0\u06d0\u0649\u0649"⟩,
  ⟨0xFBFC, 1, "\u06cc\u06cc\u06cc\u06cc"⟩, ⟨0xFE10, 1, ",、"⟩, ⟨0xFE13, 1, ":;!?〖〗"⟩,
  ⟨0xFE31, 1, "—–__()\x7b\x7d〔〕【】《》〈〉「」『』"⟩, ⟨0xFE47, 1, "[]"⟩, ⟨0xFE4D, 1, "___,、"⟩,
  ⟨0xFE54, 1, ";:?!—()\x7b\x7d〔〕#&*+-<>="⟩, ⟨0xFE68, 1, "\\$%@"⟩,
  ⟨0xFE80, 1, "\u0621\u0622\u0622\u0623\u0623\u0624\u0624\u0625\u0625\u0626\u0626\u0626\u0626" ++
    "\u0627\u0627\u0628\u0628\u0628\u0628\u0629\u0629\u062a\u062a\u062a\u062a\u062b\u062b" ++
    "\u062b\u062b\u062c\u062c\u062c\u062c\u062d\u062d\u062d\u062d\u062e\u062e\u062e"⟩,
  ⟨0xFEA8, 1, "\u062e\u062f\u062f\u0630\u0630\u0631\u0631\u0632\u0632\u0633\u0633\u0633\u0633" ++
    "\u0634\u0634\u0634\u0634\u0635\u0635\u0635\u0635\u0636\u0636\u0636\u0636\u0637\u0637" ++
    "\u0637\u0637\u0638\u0638\u0638\u0638\u0639\u0639\u0639\u0639\u063a\u063a\u063a"⟩,
  ⟨0xFED0, 1, "\u063a\u0641\u0641\u0641\u0641\u0642\u0642\u0642\u0642\u0643\u0643\u0643\u0643" ++
    "\u0644\u0644\u0644\u0644\u0645\u0645\u0645\u0645\u0646\u0646\u0646\u0646\u0647\u0647" ++
    "\u0647\u0647\u0648\u0648\u0649\u0649\u064a\u064a\u064a\u064a"⟩,
  ⟨0xFF01, 1, "!\"#$%&'()*+,-./0123456789:;<=>?@abcdefgh"⟩,
  ⟨0xFF29, 1, "ijklmnopqrstuvwxyz[\\]^_`abcdefghijklmnop"⟩,
  ⟨0xFF51, 1, "qrstuvwxyz\x7b|\x7d~⦅⦆.「」、・ヲァィゥェォャュョッーアイウエオカキク"⟩,
  ⟨0xFF79, 1, "ケコサシスセソタチツテトナニヌネノハヒフヘホマミムメモヤユヨラリルレロワン\u3099\u309a"⟩,
  ⟨0xFFA1, 1, "ᄀᄁᆪᄂᆬᆭᄃᄄᄅᆰᆱᆲᆳᆴᆵᄚᄆᄇᄈᄡᄉᄊᄋᄌᄍᄎᄏᄐᄑᄒ"⟩, ⟨0xFFC2, 1, "ᅡᅢᅣᅤᅥᅦ"⟩, ⟨0xFFCA, 1, "ᅧᅨᅩᅪᅫᅬ"⟩,
  ⟨0xFFD2, 1, "ᅭᅮᅯᅰᅱᅲ"⟩, ⟨0xFFDA, 1, "ᅳᅴᅵ"⟩, ⟨0xFFE0, 2, "¢¬¦₩│↑↓○"⟩, ⟨0xFFE1, 1, "£"⟩,
  ⟨0xFFE5, 1, "¥"⟩, ⟨0xFFE9, 2, "←→■"⟩]

/-- Characters beyond the first plane. -/
def mappedHigher : List MappedRun := [
  ⟨0x10400, 1, "𐐨𐐩𐐪𐐫𐐬𐐭𐐮𐐯𐐰𐐱𐐲𐐳𐐴𐐵𐐶𐐷𐐸𐐹𐐺𐐻𐐼𐐽𐐾𐐿𐑀𐑁𐑂𐑃𐑄𐑅𐑆𐑇𐑈𐑉𐑊𐑋𐑌𐑍𐑎𐑏"⟩,
  ⟨0x104B0, 1, "𐓘𐓙𐓚𐓛𐓜𐓝𐓞𐓟𐓠𐓡𐓢𐓣𐓤𐓥𐓦𐓧𐓨𐓩𐓪𐓫𐓬𐓭𐓮𐓯𐓰𐓱𐓲𐓳𐓴𐓵𐓶𐓷𐓸𐓹𐓺𐓻"⟩, ⟨0x10570, 2, "𐖗𐖙𐖛𐖝𐖟𐖡𐖣𐖥𐖧𐖩𐖫𐖭𐖯𐖱𐖳𐖵𐖷𐖹𐖻"⟩,
  ⟨0x10571, 2, "𐖘𐖚𐖜𐖞𐖠"⟩, ⟨0x1057D, 2, "𐖤𐖦𐖨𐖪𐖬𐖮𐖰"⟩, ⟨0x1058D, 2, "𐖴𐖶𐖸"⟩, ⟨0x10595, 1, "𐖼"⟩,
  ⟨0x10781, 2, "ːæɓʣʥɖᶑɞɤɠħɧʪɬꞎ𝼅𝼆ɶq𝼈ɾʨꭧʈ"⟩, ⟨0x10782, 1, "ˑ"⟩, ⟨0x10784, 1, "ʙ"⟩,
  ⟨0x10788, 2, "ꭦʤɗɘʩɢʛʜʄʫ𝼄ɮʎøɷɺɽʀʦʧⱱʏʢǀǂ𝼞"⟩, ⟨0x107B3, 2, "ʡʘǁ𝼊"⟩,
  ⟨0x10C80, 1, "𐳀𐳁𐳂𐳃𐳄𐳅𐳆𐳇𐳈𐳉𐳊𐳋𐳌𐳍𐳎𐳏𐳐𐳑𐳒𐳓𐳔𐳕𐳖𐳗𐳘𐳙𐳚𐳛𐳜𐳝𐳞𐳟𐳠𐳡𐳢𐳣𐳤𐳥𐳦𐳧"⟩, ⟨0x10CA8, 1, "𐳨𐳩𐳪𐳫𐳬𐳭𐳮𐳯𐳰𐳱𐳲"⟩,
  ⟨0x10D50, 1, "𐵰𐵱𐵲𐵳𐵴𐵵𐵶𐵷𐵸𐵹𐵺𐵻𐵼𐵽𐵾𐵿𐶀𐶁𐶂𐶃𐶄𐶅"⟩, ⟨0x118A0, 1, "𑣀𑣁𑣂𑣃𑣄𑣅𑣆𑣇𑣈𑣉𑣊𑣋𑣌𑣍𑣎𑣏𑣐𑣑𑣒𑣓𑣔𑣕𑣖𑣗𑣘𑣙𑣚𑣛𑣜𑣝𑣞𑣟"⟩,
  ⟨0x16E40, 1, "𖹠𖹡𖹢𖹣𖹤𖹥𖹦𖹧𖹨𖹩𖹪𖹫𖹬𖹭𖹮𖹯𖹰𖹱𖹲𖹳𖹴𖹵𖹶𖹷𖹸𖹹𖹺𖹻𖹼𖹽𖹾𖹿"⟩, ⟨0x16EA0, 1, "𖺻𖺼𖺽𖺾𖺿𖻀𖻁𖻂𖻃𖻄𖻅𖻆𖻇𖻈𖻉𖻊𖻋𖻌𖻍𖻎𖻏𖻐𖻑𖻒𖻓"⟩,
  ⟨0x1CCD6, 1, "abcdefghijklmnopqrstuvwxyz0123456789"⟩,
  ⟨0x1D400, 1, "abcdefghijklmnopqrstuvwxyzabcdefghijklmn"⟩,
  ⟨0x1D428, 1, "opqrstuvwxyzabcdefghijklmnopqrstuvwxyzab"⟩,
  ⟨0x1D450, 2, "cegikmoqsuwyacegikmoqsuwyacegikmoqsuwyac"⟩, ⟨0x1D451, 1, "d"⟩, ⟨0x1D453, 1, "f"⟩,
  ⟨0x1D457, 2, "jlnprtvxzbdfhjlnprtvxzbdfhjlnprtvxz"⟩, ⟨0x1D49F, 1, "d"⟩, ⟨0x1D4A2, 1, "g"⟩,
  ⟨0x1D4A5, 1, "jk"⟩, ⟨0x1D4A9, 1, "nopq"⟩, ⟨0x1D4AE, 1, "stuvwxyzabcd"⟩,
  ⟨0x1D4BB, 2, "fhjlnprtvxzbdfhjlnprtvxzbdfhjlnprtvxzbdf"⟩, ⟨0x1D4BE, 2, "ikm"⟩,
  ⟨0x1D4C6, 2, "qsuwyacegikmoqsuwyacegikmoqsuwya"⟩, ⟨0x1D508, 1, "e"⟩, ⟨0x1D50A, 1, "g"⟩,
  ⟨0x1D50D, 1, "jklmnopq"⟩, ⟨0x1D516, 2, "suwyacegikmoqsuwya"⟩, ⟨0x1D517, 2, "tvx"⟩,
  ⟨0x1D51F, 2, "bdfhjlnprtvxzbdf"⟩, ⟨0x1D53C, 2, "egikmo"⟩, ⟨0x1D541, 1, "j"⟩, ⟨0x1D543, 1, "l"⟩,
  ⟨0x1D54A, 2, "suwyacegikmoqsuwyacegikmoqsuwyacegikmoqs"⟩, ⟨0x1D54B, 2, "tvx"⟩,
  ⟨0x1D553, 2, "bdfhjlnprtvxzbdfhjlnprtvxzbdfhjlnprtvxzb"⟩,
  ⟨0x1D59A, 2, "uwyacegikmoqsuwyacegikmoqsuwyacegikmoqsu"⟩,
  ⟨0x1D5A3, 2, "dfhjlnprtvxzbdfhjlnprtvxzbdfhjlnprtvxzbd"⟩,
  ⟨0x1D5EA, 2, "wyacegikmoqsuwyacegikmoqsuwyacegikmoqsuw"⟩,
  ⟨0x1D5F3, 2, "fhjlnprtvxzbdfhjlnprtvxzbdfhjlnprtvxzbdf"⟩,
  ⟨0x1D63A, 2, "yacegikmoqsuwyacegikmoqsuwyacegikmoqsuwy"⟩,
  ⟨0x1D643, 2, "hjlnprtvxzbdfhjlnprtvxzbdfhjlnprtvxzbdfh"⟩, ⟨0x1D68A, 2, "acegikmoqsuwyı"⟩,
  ⟨0x1D693, 2, "jlnprtvxzȷ"⟩, ⟨0x1D6A8, 1, "αβγδεζηθικλμνξοπρθστυφχψω∇αβγδεζηθικλμνξ"⟩,
  ⟨0x1D6D0, 1, "οπρσστυφχψω∂εθκφρπαβγδεζηθικλμνξοπρθστυφ"⟩,
  ⟨0x1D6F8, 1, "χψω∇αβγδεζηθικλμνξοπρσστυφχψω∂εθκφρπαβγδ"⟩,
  ⟨0x1D720, 1, "εζηθικλμνξοπρθστυφχψω∇αβγδεζηθικλμνξοπρσ"⟩,
  ⟨0x1D748, 1, "στυφχψω∂εθκφρπαβγδεζηθικλμνξοπρθστυφχψω∇"⟩,
  ⟨0x1D770, 1, "αβγδεζηθικλμνξοπρσστυφχψω∂εθκφρπαβγδεζηθ"⟩,
  ⟨0x1D798, 1, "ικλμνξοπρθστυφχψω∇αβγδεζηθικλμνξοπρσστυφ"⟩, ⟨0x1D7C0, 1, "χψω∂εθκφρπϝϝ"⟩,
  ⟨0x1D7CE, 1, "0123456789012345678901234567890123456789"⟩, ⟨0x1D7F6, 1, "0123456789"⟩,
  ⟨0x1E030, 1, "абвгдежзиклмопрстуфхцчшыэюꚉәіјөүӏабвгдеж"⟩,
  ⟨0x1E058, 1, "зиклопсуфхцчшъыґіѕџҫꙑұ"⟩, ⟨0x1E900, 1, "𞤢𞤣𞤤𞤥𞤦𞤧𞤨𞤩𞤪𞤫𞤬𞤭𞤮𞤯𞤰𞤱𞤲𞤳𞤴𞤵𞤶𞤷𞤸𞤹𞤺𞤻𞤼𞤽𞤾𞤿𞥀𞥁𞥂𞥃"⟩,
  ⟨0x1EE00, 1, "\u0627\u0628\u062c\u062f"⟩,
  ⟨0x1EE05, 1, "\u0648\u0632\u062d\u0637\u064a\u0643\u0644\u0645\u0646\u0633\u0639\u0641\u0635" ++
    "\u0642\u0631\u0634\u062a\u062b\u062e\u0630\u0636\u0638\u063a\u066e\u06ba\u06a1\u066f"⟩,
  ⟨0x1EE21, 1, "\u0628\u062c"⟩, ⟨0x1EE24, 1, "\u0647"⟩,
  ⟨0x1EE27, 2, "\u062d\u064a\u0644\u0646\u0639\u0635"⟩,
  ⟨0x1EE2A, 2, "\u0643\u0645\u0633\u0641\u0642\u0634\u062b"⟩,
  ⟨0x1EE35, 2, "\u062a\u062e\u0636\u063a"⟩, ⟨0x1EE42, 1, "\u062c"⟩,
  ⟨0x1EE47, 2, "\u062d\u064a\u0644\u0646\u0639\u0635"⟩, ⟨0x1EE4E, 1, "\u0633"⟩,
  ⟨0x1EE52, 1, "\u0642"⟩, ⟨0x1EE54, 1, "\u0634"⟩,
  ⟨0x1EE57, 2, "\u062e\u0636\u063a\u06ba\u066f\u0628"⟩, ⟨0x1EE62, 1, "\u062c"⟩,
  ⟨0x1EE64, 1, "\u0647"⟩, ⟨0x1EE67, 1, "\u062d\u0637\u064a\u0643"⟩,
  ⟨0x1EE6C, 1, "\u0645\u0646\u0633\u0639\u0641\u0635\u0642"⟩,
  ⟨0x1EE74, 1, "\u0634\u062a\u062b\u062e"⟩, ⟨0x1EE79, 1, "\u0636\u0638\u063a\u066e"⟩,
  ⟨0x1EE7E, 2, "\u06a1\u0627\u062c\u0647\u0632\u0637"⟩,
  ⟨0x1EE81, 2, "\u0628\u062f\u0648\u062d\u064a\u0644\u0646\u0639\u0635\u0631\u062a\u062e\u0636" ++
    "\u063a"⟩,
  ⟨0x1EE8C, 2, "\u0645\u0633\u0641\u0642\u0634\u062b\u0630\u0638"⟩,
  ⟨0x1EEA1, 2, "\u0628\u062f\u0648\u062d\u064a\u0644\u0646\u0639\u0635\u0631\u062a\u062e\u0636" ++
    "\u063a"⟩,
  ⟨0x1EEA2, 1, "\u062c"⟩, ⟨0x1EEA6, 1, "\u0632"⟩, ⟨0x1EEA8, 1, "\u0637"⟩,
  ⟨0x1EEAC, 2, "\u0645\u0633\u0641\u0642\u0634\u062b\u0630\u0638"⟩, ⟨0x1F12B, 1, "cr"⟩,
  ⟨0x1F130, 1, "abcdefghijklmnopqrstuvwxyz"⟩, ⟨0x1F202, 1, "サ"⟩,
  ⟨0x1F210, 1, "手字双デ二多解天交映無料前後再新初終生販声吹演投捕一三遊左中右指走打禁空合満有月"⟩, ⟨0x1F238, 1, "申割営配"⟩,
  ⟨0x1F250, 1, "得可"⟩, ⟨0x1FBF0, 1, "0123456789"⟩,
  ⟨0x2F800, 1, "丽丸乁𠄢你侮侻倂偺備僧像㒞𠘺免兔兤具𠔜㒹內再𠕋冗冤仌冬况𩇟凵刃㓟刻剆割剷㔕勇勉勤"⟩,
  ⟨0x2F828, 1, "勺包匆北卉卑博即卽卿卿卿𠨬灰及叟𠭣叫叱吆咞吸呈周咢哶唐啓啣善善喙喫喳嗂圖嘆圗噑噴"⟩,
  ⟨0x2F850, 1, "切壮城埴堍型堲報墬𡓤売壷夆多夢奢𡚨𡛪姬娛娧姘婦㛮㛼嬈嬾嬾𡧈寃寘寧寳𡬘寿将当尢㞁屠"⟩,
  ⟨0x2F878, 1, "屮峀岍𡷤嵃𡷦嵮嵫嵼巡巢㠯巽帨帽幩㡢𢆃㡼庰庳庶廊𪎒廾𢌱𢌱舁弢弢㣇𣊸𦇚形彫㣣徚忍志忹"⟩,
  ⟨0x2F8A0, 1, "悁㤺㤜悔𢛔惇慈慌慎慌慺憎憲憤憯懞懲懶成戛扝抱拔捐𢬌挽拼捨掃揤𢯱搢揅掩㨮摩摾撝摷㩬"⟩,
  ⟨0x2F8C8, 1, "敏敬𣀊旣書晉㬙暑㬈㫤冒冕最暜肭䏙朗望朡杞杓𣏃㭉柺枅桒梅𣑭梎栟椔㮝楂榣槪檨𣚣櫛㰘次"⟩,
  ⟨0x2F8F0, 1, "𣢧歔㱎歲殟殺殻𣪍𡴋𣫺汎𣲼沿泍汧洖派海流浩浸涅𣴞洴港湮㴳滋滇𣻑淹潮𣽞𣾎濆瀹瀞瀛㶖灊"⟩,
  ⟨0x2F918, 1, "災灷炭𠔥煅𤉣熜𤎫爨爵牐𤘈犀犕𤜵𤠔獺王㺬玥㺸㺸瑇瑜瑱璅瓊㼛甤𤰶甾𤲒異𢆟瘐𤾡𤾸𥁄㿼䀈"⟩,
  ⟨0x2F940, 1, "直𥃳𥃲𥄙𥄳眞真真睊䀹瞋䁆䂖𥐝硎碌磌䃣𥘦祖𥚚𥛅福秫䄯穀穊穏𥥼𥪧𥪧竮䈂𥮫篆築䈧𥲀糒䊠"⟩,
  ⟨0x2F968, 1, "糨糣紀𥾆絣䌁緇縂繅䌴𦈨𦉇䍙𦋙罺𦌾羕翺者𦓚𦔣聠𦖨聰𣍟䏕育脃䐋脾媵𦞧𦞵𣎓𣎜舁舄辞䑫芑"⟩,
  ⟨0x2F990, 1, "芋芝劳花芳芽苦𦬼若茝荣莭茣莽菧著荓菊菌菜𦰶𦵫𦳕䔫蓱蓳蔖𧏊蕤𦼬䕝䕡𦾱𧃒䕫虐虜虧虩蚩"⟩,
  ⟨0x2F9B8, 1, "蚈蜎蛢蝹蜨蝫螆䗗蟡蠁䗹衠衣𧙧裗裞䘵裺㒻𧢮𧥦䚾䛇誠諭變豕𧲨貫賁贛起𧼯𠠄跋趼跰𠣞軔輸"⟩,
  ⟨0x2F9E0, 1, "𨗒𨗭邔郱鄑𨜮鄛鈸鋗鋘鉼鏹鐕𨯺開䦕閷𨵷䧦雃嶲霣𩅅𩈚䩮䩶韠𩐊䪲𩒖頋頋頩𩖶飢䬳餩馧駂駾"⟩, ⟨0x2FA08, 1, "䯎𩬰鬒鱀鳽䳎䳭鵧𪃎䳸𪄅𪈎𪊑麻䵖黹黾鼅鼏鼖鼻𪘀"⟩]

/-- Characters that stand for more than one character. -/
def expandedRuns : List ExpandedRun := [
  ⟨0xBC, 1, ["1⁄4", "1⁄2", "3⁄4"]⟩, ⟨0x130, 1, ["i\u0307"]⟩, ⟨0x132, 1, ["ij", "ij"]⟩,
  ⟨0x13F, 1, ["l·", "l·"]⟩, ⟨0x149, 1, ["ʼn"]⟩,
  ⟨0x1C4, 1, ["dž", "dž", "dž", "lj", "lj", "lj", "nj", "nj", "nj"]⟩,
  ⟨0x1F1, 1, ["dz", "dz", "dz"]⟩, ⟨0x344, 1, ["\u0308\u0301"]⟩, ⟨0x587, 1, ["եւ"]⟩,
  ⟨0x675, 1, ["\u0627\u0674", "\u0648\u0674", "\u06c7\u0674", "\u064a\u0674"]⟩,
  ⟨0x958, 1, [
    "क\u093c", "ख\u093c", "ग\u093c", "ज\u093c", "ड\u093c", "ढ\u093c", "फ\u093c", "य\u093c"]⟩,
  ⟨0x9DC, 1, ["ড\u09bc", "ঢ\u09bc"]⟩, ⟨0x9DF, 1, ["য\u09bc"]⟩, ⟨0xA33, 1, ["ਲ\u0a3c"]⟩,
  ⟨0xA36, 1, ["ਸ\u0a3c"]⟩, ⟨0xA59, 1, ["ਖ\u0a3c", "ਗ\u0a3c", "ਜ\u0a3c"]⟩, ⟨0xA5E, 1, ["ਫ\u0a3c"]⟩,
  ⟨0xB5C, 1, ["ଡ\u0b3c", "ଢ\u0b3c"]⟩, ⟨0xE33, 1, ["\u0e4dา"]⟩, ⟨0xEB3, 1, ["\u0ecdາ"]⟩,
  ⟨0xEDC, 1, ["ຫນ", "ຫມ"]⟩, ⟨0xF43, 1, ["ག\u0fb7"]⟩, ⟨0xF4D, 1, ["ཌ\u0fb7"]⟩,
  ⟨0xF52, 1, ["ད\u0fb7"]⟩, ⟨0xF57, 1, ["བ\u0fb7"]⟩, ⟨0xF5C, 1, ["ཛ\u0fb7"]⟩,
  ⟨0xF69, 1, ["ཀ\u0fb5"]⟩,
  ⟨0xF73, 2, ["\u0f71\u0f72", "\u0f71\u0f74", "\u0fb2\u0f71\u0f80", "\u0fb3\u0f71\u0f80"]⟩,
  ⟨0xF76, 1, ["\u0fb2\u0f80"]⟩, ⟨0xF78, 1, ["\u0fb3\u0f80"]⟩, ⟨0xF81, 1, ["\u0f71\u0f80"]⟩,
  ⟨0xF93, 1, ["\u0f92\u0fb7"]⟩, ⟨0xF9D, 1, ["\u0f9c\u0fb7"]⟩, ⟨0xFA2, 1, ["\u0fa1\u0fb7"]⟩,
  ⟨0xFA7, 1, ["\u0fa6\u0fb7"]⟩, ⟨0xFAC, 1, ["\u0fab\u0fb7"]⟩, ⟨0xFB9, 1, ["\u0f90\u0fb5"]⟩,
  ⟨0x1E9A, 1, ["aʾ"]⟩,
  ⟨0x1F80, 1, [
    "ἀι", "ἁι", "ἂι", "ἃι", "ἄι", "ἅι", "ἆι", "ἇι", "ἀι", "ἁι", "ἂι", "ἃι", "ἄι", "ἅι", "ἆι", "ἇι",
    "ἠι", "ἡι", "ἢι", "ἣι", "ἤι", "ἥι", "ἦι", "ἧι", "ἠι", "ἡι", "ἢι", "ἣι", "ἤι", "ἥι", "ἦι", "ἧι",
    "ὠι", "ὡι", "ὢι", "ὣι", "ὤι", "ὥι", "ὦι", "ὧι", "ὠι", "ὡι", "ὢι", "ὣι", "ὤι", "ὥι", "ὦι", "ὧι"]⟩,
  ⟨0x1FB2, 1, ["ὰι", "αι", "άι"]⟩, ⟨0x1FB7, 1, ["ᾶι"]⟩, ⟨0x1FBC, 1, ["αι"]⟩,
  ⟨0x1FC2, 1, ["ὴι", "ηι", "ήι"]⟩, ⟨0x1FC7, 1, ["ῆι"]⟩, ⟨0x1FCC, 1, ["ηι"]⟩,
  ⟨0x1FF2, 1, ["ὼι", "ωι", "ώι"]⟩, ⟨0x1FF7, 1, ["ῶι"]⟩, ⟨0x1FFC, 1, ["ωι"]⟩,
  ⟨0x2033, 1, ["′′", "′′′"]⟩, ⟨0x2036, 1, ["‵‵", "‵‵‵"]⟩, ⟨0x203C, 1, ["!!"]⟩,
  ⟨0x2047, 1, ["??", "?!", "!?"]⟩, ⟨0x2057, 1, ["′′′′"]⟩, ⟨0x20A8, 1, ["rs"]⟩,
  ⟨0x2100, 1, ["a/c", "a/s"]⟩, ⟨0x2103, 1, ["°c"]⟩, ⟨0x2105, 1, ["c/o", "c/u"]⟩,
  ⟨0x2109, 1, ["°f"]⟩, ⟨0x2116, 1, ["no"]⟩, ⟨0x2120, 1, ["sm", "tel", "tm"]⟩,
  ⟨0x213B, 1, ["fax"]⟩,
  ⟨0x2150, 1, [
    "1⁄7", "1⁄9", "1⁄10", "1⁄3", "2⁄3", "1⁄5", "2⁄5", "3⁄5", "4⁄5", "1⁄6", "5⁄6", "1⁄8", "3⁄8",
    "5⁄8", "7⁄8", "1⁄"]⟩,
  ⟨0x2161, 2, ["ii", "iv", "vi", "viii"]⟩, ⟨0x2162, 1, ["iii"]⟩, ⟨0x2166, 2, ["vii", "ix", "xi"]⟩,
  ⟨0x216B, 1, ["xii"]⟩, ⟨0x2171, 2, ["ii", "iv", "vi", "viii"]⟩, ⟨0x2172, 1, ["iii"]⟩,
  ⟨0x2176, 2, ["vii", "ix", "xi"]⟩, ⟨0x217B, 1, ["xii"]⟩, ⟨0x2189, 1, ["0⁄3"]⟩,
  ⟨0x222C, 1, ["∫∫", "∫∫∫"]⟩, ⟨0x222F, 1, ["∮∮", "∮∮∮"]⟩,
  ⟨0x2469, 1, [
    "10", "11", "12", "13", "14", "15", "16", "17", "18", "19", "20", "(1)", "(2)", "(3)", "(4)",
    "(5)", "(6)", "(7)", "(8)", "(9)", "(10)", "(11)", "(12)", "(13)", "(14)", "(15)", "(16)",
    "(17)", "(18)", "(19)", "(20)"]⟩,
  ⟨0x249C, 1, [
    "(a)", "(b)", "(c)", "(d)", "(e)", "(f)", "(g)", "(h)", "(i)", "(j)", "(k)", "(l)", "(m)",
    "(n)", "(o)", "(p)", "(q)", "(r)", "(s)", "(t)", "(u)", "(v)", "(w)", "(x)", "(y)", "(z)"]⟩,
  ⟨0x2A0C, 1, ["∫∫∫∫"]⟩, ⟨0x2A74, 1, ["::=", "==", "==="]⟩, ⟨0x2ADC, 1, ["⫝\u0338"]⟩,
  ⟨0x309F, 1, ["より"]⟩, ⟨0x30FF, 1, ["コト"]⟩,
  ⟨0x3200, 2, [
    "(ᄀ)", "(ᄃ)", "(ᄆ)", "(ᄉ)", "(ᄌ)", "(ᄏ)", "(ᄑ)", "(가)", "(다)", "(마)", "(사)", "(자)", "(카)",
    "(파)", "(주)", "(오후)", "(一)", "(三)", "(五)", "(七)", "(九)", "(月)", "(水)", "(金)", "(日)", "(有)",
    "(名)", "(財)", "(労)", "(呼)", "(監)", "(資)", "(祭)", "(自)"]⟩,
  ⟨0x3201, 2, [
    "(ᄂ)", "(ᄅ)", "(ᄇ)", "(ᄋ)", "(ᄎ)", "(ᄐ)", "(ᄒ)", "(나)", "(라)", "(바)", "(아)", "(차)", "(타)",
    "(하)", "(오전)"]⟩,
  ⟨0x3221, 2, [
    "(二)", "(四)", "(六)", "(八)", "(十)", "(火)", "(木)", "(土)", "(株)", "(社)", "(特)", "(祝)", "(代)",
    "(学)", "(企)", "(協)", "(休)", "(至)"]⟩,
  ⟨0x3250, 1, [
    "pte", "21", "22", "23", "24", "25", "26", "27", "28", "29", "30", "31", "32", "33", "34", "35"]⟩,
  ⟨0x327C, 1, ["참고", "주의"]⟩,
  ⟨0x32B1, 1, [
    "36", "37", "38", "39", "40", "41", "42", "43", "44", "45", "46", "47", "48", "49", "50", "1月",
    "2月", "3月", "4月", "5月", "6月", "7月", "8月", "9月", "10月", "11月", "12月", "hg", "erg", "ev", "ltd"]⟩,
  ⟨0x32FF, 1, [
    "令和", "アパート", "アルファ", "アンペア", "アール", "イニング", "インチ", "ウォン", "エスクード", "エーカー", "オンス", "オーム", "カイリ",
    "カラット", "カロリー", "ガロン", "ガンマ", "ギガ", "ギニー", "キュリー", "ギルダー", "キロ", "キログラム", "キロメートル", "キロワット",
    "グラム", "グラムトン", "クルゼイロ", "クローネ", "ケース", "コルナ", "コーポ", "サイクル", "サンチーム", "シリング", "センチ", "セント",
    "ダース", "デシ", "ドル", "トン", "ナノ", "ノット", "ハイツ", "パーセント", "パーツ", "バーレル", "ピアストル", "ピクル", "ピコ", "ビル",
    "ファラッド", "フィート", "ブッシェル", "フラン", "ヘクタール", "ペソ", "ペニヒ", "ヘルツ", "ペンス", "ページ", "ベータ", "ポイント",
    "ボルト", "ホン", "ポンド", "ホール", "ホーン", "マイクロ", "マイル", "マッハ", "マルク", "マンション", "ミクロン", "ミリ", "ミリバール",
    "メガ", "メガトン", "メートル", "ヤード", "ヤール", "ユアン", "リットル", "リラ", "ルピー", "ルーブル", "レム", "レントゲン", "ワット",
    "0点", "1点", "2点", "3点", "4点", "5点", "6点", "7点", "8点", "9点", "10点", "11点", "12点", "13点", "14点",
    "15点", "16点", "17点", "18点", "19点", "20点", "21点", "22点", "23点", "24点", "hpa", "da", "au", "bar",
    "ov", "pc", "dm", "dm2", "dm3", "iu", "平成", "昭和", "大正", "明治", "株式会社", "pa", "na", "μa", "ma",
    "ka", "kb", "mb", "gb", "cal", "kcal", "pf", "nf", "μf", "μg", "mg", "kg", "hz", "khz", "mhz",
    "ghz", "thz", "μl", "ml", "dl", "kl", "fm", "nm", "μm", "mm", "cm", "km", "mm2", "cm2", "m2",
    "km2", "mm3", "cm3", "m3", "km3", "m∕s", "m∕s2", "pa", "kpa", "mpa", "gpa", "rad", "rad∕s",
    "rad∕s2", "ps", "ns", "μs", "ms", "pv", "nv", "μv", "mv", "kv", "mv", "pw", "nw", "μw", "mw",
    "kw", "mw", "kω", "mω"]⟩,
  ⟨0x33C3, 1, ["bq", "cc", "cd", "c∕kg"]⟩,
  ⟨0x33C8, 1, [
    "db", "gy", "ha", "hp", "in", "kk", "km", "kt", "lm", "ln", "log", "lx", "mb", "mil", "mol",
    "ph"]⟩,
  ⟨0x33D9, 1, [
    "ppm", "pr", "sr", "sv", "wb", "v∕m", "a∕m", "1日", "2日", "3日", "4日", "5日", "6日", "7日", "8日",
    "9日", "10日", "11日", "12日", "13日", "14日", "15日", "16日", "17日", "18日", "19日", "20日", "21日", "22日",
    "23日", "24日", "25日", "26日", "27日", "28日", "29日", "30日", "31日", "gal"]⟩,
  ⟨0xFB00, 1, ["ff", "fi", "fl", "ffi", "ffl", "st", "st"]⟩,
  ⟨0xFB13, 1, ["մն", "մե", "մի", "վն", "մխ"]⟩, ⟨0xFB1D, 1, ["\u05d9\u05b4"]⟩,
  ⟨0xFB1F, 1, ["\u05f2\u05b7"]⟩,
  ⟨0xFB2A, 1, [
    "\u05e9\u05c1", "\u05e9\u05c2", "\u05e9\u05bc\u05c1", "\u05e9\u05bc\u05c2", "\u05d0\u05b7",
    "\u05d0\u05b8", "\u05d0\u05bc", "\u05d1\u05bc", "\u05d2\u05bc", "\u05d3\u05bc", "\u05d4\u05bc",
    "\u05d5\u05bc", "\u05d6\u05bc"]⟩,
  ⟨0xFB38, 1, ["\u05d8\u05bc", "\u05d9\u05bc", "\u05da\u05bc", "\u05db\u05bc", "\u05dc\u05bc"]⟩,
  ⟨0xFB3E, 1, ["\u05de\u05bc"]⟩, ⟨0xFB40, 1, ["\u05e0\u05bc", "\u05e1\u05bc"]⟩,
  ⟨0xFB43, 1, ["\u05e3\u05bc", "\u05e4\u05bc"]⟩,
  ⟨0xFB46, 1, [
    "\u05e6\u05bc", "\u05e7\u05bc", "\u05e8\u05bc", "\u05e9\u05bc", "\u05ea\u05bc", "\u05d5\u05b9",
    "\u05d1\u05bf", "\u05db\u05bf", "\u05e4\u05bf", "\u05d0\u05dc"]⟩,
  ⟨0xFBDD, 1, ["\u06c7\u0674"]⟩,
  ⟨0xFBEA, 1, [
    "\u0626\u0627", "\u0626\u0627", "\u0626\u06d5", "\u0626\u06d5", "\u0626\u0648", "\u0626\u0648",
    "\u0626\u06c7", "\u0626\u06c7", "\u0626\u06c6", "\u0626\u06c6", "\u0626\u06c8", "\u0626\u06c8",
    "\u0626\u06d0", "\u0626\u06d0", "\u0626\u06d0", "\u0626\u0649", "\u0626\u0649", "\u0626\u0649"]⟩,
  ⟨0xFC00, 1, [
    "\u0626\u062c", "\u0626\u062d", "\u0626\u0645", "\u0626\u0649", "\u0626\u064a", "\u0628\u062c",
    "\u0628\u062d", "\u0628\u062e", "\u0628\u0645", "\u0628\u0649", "\u0628\u064a", "\u062a\u062c",
    "\u062a\u062d", "\u062a\u062e", "\u062a\u0645", "\u062a\u0649", "\u062a\u064a", "\u062b\u062c",
    "\u062b\u0645", "\u062b\u0649", "\u062b\u064a", "\u062c\u062d", "\u062c\u0645", "\u062d\u062c",
    "\u062d\u0645", "\u062e\u062c", "\u062e\u062d", "\u062e\u0645", "\u0633\u062c", "\u0633\u062d",
    "\u0633\u062e", "\u0633\u0645", "\u0635\u062d", "\u0635\u0645", "\u0636\u062c", "\u0636\u062d",
    "\u0636\u062e", "\u0636\u0645", "\u0637\u062d", "\u0637\u0645", "\u0638\u0645", "\u0639\u062c",
    "\u0639\u0645", "\u063a\u062c", "\u063a\u0645", "\u0641\u062c", "\u0641\u062d", "\u0641\u062e",
    "\u0641\u0645", "\u0641\u0649", "\u0641\u064a", "\u0642\u062d", "\u0642\u0645", "\u0642\u0649",
    "\u0642\u064a", "\u0643\u0627", "\u0643\u062c", "\u0643\u062d", "\u0643\u062e", "\u0643\u0644",
    "\u0643\u0645", "\u0643\u0649", "\u0643\u064a", "\u0644\u062c", "\u0644\u062d", "\u0644\u062e",
    "\u0644\u0645", "\u0644\u0649", "\u0644\u064a", "\u0645\u062c", "\u0645\u062d", "\u0645\u062e",
    "\u0645\u0645", "\u0645\u0649", "\u0645\u064a", "\u0646\u062c", "\u0646\u062d", "\u0646\u062e",
    "\u0646\u0645", "\u0646\u0649", "\u0646\u064a", "\u0647\u062c", "\u0647\u0645", "\u0647\u0649",
    "\u0647\u064a", "\u064a\u062c", "\u064a\u062d", "\u064a\u062e", "\u064a\u0645", "\u064a\u0649",
    "\u064a\u064a", "\u0630\u0670", "\u0631\u0670", "\u0649\u0670"]⟩,
  ⟨0xFC64, 1, [
    "\u0626\u0631", "\u0626\u0632", "\u0626\u0645", "\u0626\u0646", "\u0626\u0649", "\u0626\u064a",
    "\u0628\u0631", "\u0628\u0632", "\u0628\u0645", "\u0628\u0646", "\u0628\u0649", "\u0628\u064a",
    "\u062a\u0631", "\u062a\u0632", "\u062a\u0645", "\u062a\u0646", "\u062a\u0649", "\u062a\u064a",
    "\u062b\u0631", "\u062b\u0632", "\u062b\u0645", "\u062b\u0646", "\u062b\u0649", "\u062b\u064a",
    "\u0641\u0649", "\u0641\u064a", "\u0642\u0649", "\u0642\u064a", "\u0643\u0627", "\u0643\u0644",
    "\u0643\u0645", "\u0643\u0649", "\u0643\u064a", "\u0644\u0645", "\u0644\u0649", "\u0644\u064a",
    "\u0645\u0627", "\u0645\u0645", "\u0646\u0631", "\u0646\u0632", "\u0646\u0645", "\u0646\u0646",
    "\u0646\u0649", "\u0646\u064a", "\u0649\u0670", "\u064a\u0631", "\u064a\u0632", "\u064a\u0645",
    "\u064a\u0646", "\u064a\u0649", "\u064a\u064a", "\u0626\u062c", "\u0626\u062d", "\u0626\u062e",
    "\u0626\u0645", "\u0626\u0647", "\u0628\u062c", "\u0628\u062d", "\u0628\u062e", "\u0628\u0645",
    "\u0628\u0647", "\u062a\u062c", "\u062a\u062d", "\u062a\u062e", "\u062a\u0645", "\u062a\u0647",
    "\u062b\u0645", "\u062c\u062d", "\u062c\u0645", "\u062d\u062c", "\u062d\u0645", "\u062e\u062c",
    "\u062e\u0645", "\u0633\u062c", "\u0633\u062d", "\u0633\u062e", "\u0633\u0645", "\u0635\u062d",
    "\u0635\u062e", "\u0635\u0645", "\u0636\u062c", "\u0636\u062d", "\u0636\u062e", "\u0636\u0645",
    "\u0637\u062d", "\u0638\u0645", "\u0639\u062c", "\u0639\u0645", "\u063a\u062c", "\u063a\u0645",
    "\u0641\u062c", "\u0641\u062d", "\u0641\u062e", "\u0641\u0645", "\u0642\u062d", "\u0642\u0645",
    "\u0643\u062c", "\u0643\u062d", "\u0643\u062e", "\u0643\u0644", "\u0643\u0645", "\u0644\u062c",
    "\u0644\u062d", "\u0644\u062e", "\u0644\u0645", "\u0644\u0647", "\u0645\u062c", "\u0645\u062d",
    "\u0645\u062e", "\u0645\u0645", "\u0646\u062c", "\u0646\u062d", "\u0646\u062e", "\u0646\u0645",
    "\u0646\u0647", "\u0647\u062c", "\u0647\u0645", "\u0647\u0670", "\u064a\u062c", "\u064a\u062d",
    "\u064a\u062e", "\u064a\u0645", "\u064a\u0647", "\u0626\u0645", "\u0626\u0647", "\u0628\u0645",
    "\u0628\u0647", "\u062a\u0645", "\u062a\u0647", "\u062b\u0645", "\u062b\u0647", "\u0633\u0645",
    "\u0633\u0647", "\u0634\u0645", "\u0634\u0647", "\u0643\u0644", "\u0643\u0645", "\u0644\u0645",
    "\u0646\u0645", "\u0646\u0647", "\u064a\u0645", "\u064a\u0647", "\u0640\u064e\u0651",
    "\u0640\u064f\u0651", "\u0640\u0650\u0651", "\u0637\u0649", "\u0637\u064a", "\u0639\u0649",
    "\u0639\u064a", "\u063a\u0649", "\u063a\u064a", "\u0633\u0649", "\u0633\u064a", "\u0634\u0649",
    "\u0634\u064a", "\u062d\u0649", "\u062d\u064a", "\u062c\u0649", "\u062c\u064a", "\u062e\u0649",
    "\u062e\u064a", "\u0635\u0649", "\u0635\u064a", "\u0636\u0649", "\u0636\u064a", "\u0634\u062c",
    "\u0634\u062d", "\u0634\u062e", "\u0634\u0645", "\u0634\u0631", "\u0633\u0631", "\u0635\u0631",
    "\u0636\u0631", "\u0637\u0649", "\u0637\u064a", "\u0639\u0649", "\u0639\u064a", "\u063a\u0649",
    "\u063a\u064a", "\u0633\u0649", "\u0633\u064a", "\u0634\u0649", "\u0634\u064a", "\u062d\u0649",
    "\u062d\u064a", "\u062c\u0649", "\u062c\u064a", "\u062e\u0649", "\u062e\u064a", "\u0635\u0649",
    "\u0635\u064a", "\u0636\u0649", "\u0636\u064a", "\u0634\u062c", "\u0634\u062d", "\u0634\u062e",
    "\u0634\u0645", "\u0634\u0631", "\u0633\u0631", "\u0635\u0631"]⟩,
  ⟨0xFD2C, 1, [
    "\u0636\u0631", "\u0634\u062c", "\u0634\u062d", "\u0634\u062e", "\u0634\u0645", "\u0633\u0647",
    "\u0634\u0647", "\u0637\u0645", "\u0633\u062c", "\u0633\u062d", "\u0633\u062e", "\u0634\u062c",
    "\u0634\u062d", "\u0634\u062e", "\u0637\u0645", "\u0638\u0645", "\u0627\u064b", "\u0627\u064b"]⟩,
  ⟨0xFD50, 1, [
    "\u062a\u062c\u0645", "\u062a\u062d\u062c", "\u062a\u062d\u062c", "\u062a\u062d\u0645",
    "\u062a\u062e\u0645", "\u062a\u0645\u062c", "\u062a\u0645\u062d", "\u062a\u0645\u062e",
    "\u062c\u0645\u062d", "\u062c\u0645\u062d", "\u062d\u0645\u064a", "\u062d\u0645\u0649",
    "\u0633\u062d\u062c", "\u0633\u062c\u062d", "\u0633\u062c\u0649", "\u0633\u0645\u062d",
    "\u0633\u0645\u062d", "\u0633\u0645\u062c", "\u0633\u0645\u0645", "\u0633\u0645\u0645",
    "\u0635\u062d\u062d", "\u0635\u062d\u062d", "\u0635\u0645\u0645", "\u0634\u062d\u0645",
    "\u0634\u062d\u0645", "\u0634\u062c\u064a", "\u0634\u0645\u062e", "\u0634\u0645\u062e",
    "\u0634\u0645\u0645", "\u0634\u0645\u0645", "\u0636\u062d\u0649", "\u0636\u062e\u0645",
    "\u0636\u062e\u0645", "\u0637\u0645\u062d", "\u0637\u0645\u062d", "\u0637\u0645\u0645",
    "\u0637\u0645\u064a", "\u0639\u062c\u0645", "\u0639\u0645\u0645", "\u0639\u0645\u0645",
    "\u0639\u0645\u0649", "\u063a\u0645\u0645", "\u063a\u0645\u064a", "\u063a\u0645\u0649",
    "\u0641\u062e\u0645", "\u0641\u062e\u0645", "\u0642\u0645\u062d", "\u0642\u0645\u0645",
    "\u0644\u062d\u0645", "\u0644\u062d\u064a", "\u0644\u062d\u0649", "\u0644\u062c\u062c",
    "\u0644\u062c\u062c", "\u0644\u062e\u0645", "\u0644\u062e\u0645", "\u0644\u0645\u062d",
    "\u0644\u0645\u062d", "\u0645\u062d\u062c", "\u0645\u062d\u0645", "\u0645\u062d\u064a",
    "\u0645\u062c\u062d", "\u0645\u062c\u0645", "\u0645\u062e\u062c", "\u0645\u062e\u0645"]⟩,
  ⟨0xFD92, 1, [
    "\u0645\u062c\u062e", "\u0647\u0645\u062c", "\u0647\u0645\u0645", "\u0646\u062d\u0645",
    "\u0646\u062d\u0649", "\u0646\u062c\u0645", "\u0646\u062c\u0645", "\u0646\u062c\u0649",
    "\u0646\u0645\u064a", "\u0646\u0645\u0649", "\u064a\u0645\u0645", "\u064a\u0645\u0645",
    "\u0628\u062e\u064a", "\u062a\u062c\u064a", "\u062a\u062c\u0649", "\u062a\u062e\u064a",
    "\u062a\u062e\u0649", "\u062a\u0645\u064a", "\u062a\u0645\u0649", "\u062c\u0645\u064a",
    "\u062c\u062d\u0649", "\u062c\u0645\u0649", "\u0633\u062e\u0649", "\u0635\u062d\u064a",
    "\u0634\u062d\u064a", "\u0636\u062d\u064a", "\u0644\u062c\u064a", "\u0644\u0645\u064a",
    "\u064a\u062d\u064a", "\u064a\u062c\u064a", "\u064a\u0645\u064a", "\u0645\u0645\u064a",
    "\u0642\u0645\u064a", "\u0646\u062d\u064a", "\u0642\u0645\u062d", "\u0644\u062d\u0645",
    "\u0639\u0645\u064a", "\u0643\u0645\u064a", "\u0646\u062c\u062d", "\u0645\u062e\u064a",
    "\u0644\u062c\u0645", "\u0643\u0645\u0645", "\u0644\u062c\u0645", "\u0646\u062c\u062d",
    "\u062c\u062d\u064a", "\u062d\u062c\u064a", "\u0645\u062c\u064a", "\u0641\u0645\u064a",
    "\u0628\u062d\u064a", "\u0643\u0645\u0645", "\u0639\u062c\u0645", "\u0635\u0645\u0645",
    "\u0633\u062e\u064a", "\u0646\u062c\u064a"]⟩,
  ⟨0xFDF0, 1, [
    "\u0635\u0644\u06d2", "\u0642\u0644\u06d2", "\u0627\u0644\u0644\u0647",
    "\u0627\u0643\u0628\u0631", "\u0645\u062d\u0645\u062f", "\u0635\u0644\u0639\u0645",
    "\u0631\u0633\u0648\u0644", "\u0639\u0644\u064a\u0647", "\u0648\u0633\u0644\u0645",
    "\u0635\u0644\u0649"]⟩,
  ⟨0xFDFC, 1, ["\u0631\u06cc\u0627\u0644"]⟩, ⟨0xFE71, 1, ["\u0640\u064b"]⟩,
  ⟨0xFE77, 2, ["\u0640\u064e", "\u0640\u064f", "\u0640\u0650", "\u0640\u0651", "\u0640\u0652"]⟩,
  ⟨0xFEF5, 1, [
    "\u0644\u0622", "\u0644\u0622", "\u0644\u0623", "\u0644\u0623", "\u0644\u0625", "\u0644\u0625",
    "\u0644\u0627", "\u0644\u0627"]⟩,
  ⟨0x1D15E, 1, ["𝅗𝅥", "𝅘𝅥", "𝅘𝅥𝅮", "𝅘𝅥𝅯", "𝅘𝅥𝅰", "𝅘𝅥𝅱", "𝅘𝅥𝅲"]⟩,
  ⟨0x1D1BB, 1, ["𝆹𝅥", "𝆺𝅥", "𝆹𝅥𝅮", "𝆺𝅥𝅮", "𝆹𝅥𝅯", "𝆺𝅥𝅯"]⟩,
  ⟨0x1F101, 1, ["0,", "1,", "2,", "3,", "4,", "5,", "6,", "7,", "8,", "9,"]⟩,
  ⟨0x1F110, 1, [
    "(a)", "(b)", "(c)", "(d)", "(e)", "(f)", "(g)", "(h)", "(i)", "(j)", "(k)", "(l)", "(m)",
    "(n)", "(o)", "(p)", "(q)", "(r)", "(s)", "(t)", "(u)", "(v)", "(w)", "(x)", "(y)", "(z)", "〔s〕"]⟩,
  ⟨0x1F12D, 1, ["cd", "wz"]⟩, ⟨0x1F14A, 1, ["hv", "mv", "sd", "ss", "ppv", "wc"]⟩,
  ⟨0x1F16A, 1, ["mc", "md", "mr"]⟩, ⟨0x1F190, 1, ["dj"]⟩, ⟨0x1F200, 1, ["ほか", "ココ"]⟩,
  ⟨0x1F240, 1, ["〔本〕", "〔三〕", "〔二〕", "〔安〕", "〔点〕", "〔打〕", "〔盗〕", "〔勝〕", "〔敗〕"]⟩]

/-- The characters that stand for a text with a blank, which no domain may hold. -/
def expandedWithBlanks : List CharRange := [
  (0xA8, 0xA8), (0xAF, 0xAF), (0xB4, 0xB4), (0xB8, 0xB8), (0x2D8, 0x2DD), (0x37A, 0x37A),
  (0x384, 0x385), (0x1FBD, 0x1FBD), (0x1FBF, 0x1FC1), (0x1FCD, 0x1FCF), (0x1FDD, 0x1FDF),
  (0x1FED, 0x1FEE), (0x1FFD, 0x1FFE), (0x2017, 0x2017), (0x203E, 0x203E), (0x309B, 0x309C),
  (0xFC5E, 0xFC63), (0xFDFA, 0xFDFB), (0xFE49, 0xFE4C), (0xFE70, 0xFE70), (0xFE72, 0xFE72),
  (0xFE74, 0xFE74), (0xFE76, 0xFE76), (0xFE78, 0xFE78), (0xFE7A, 0xFE7A), (0xFE7C, 0xFE7C),
  (0xFE7E, 0xFE7E), (0xFFE3, 0xFFE3)]

/-- The characters that stand for nothing. -/
def ignoredRanges : List CharRange := [
  (0xAD, 0xAD), (0x34F, 0x34F), (0x115F, 0x1160), (0x17B4, 0x17B5), (0x180B, 0x180F),
  (0x200B, 0x200B), (0x2060, 0x2064), (0x206A, 0x206F), (0x3164, 0x3164), (0xFE00, 0xFE0F),
  (0xFEFF, 0xFEFF), (0xFFA0, 0xFFA0), (0x1BCA0, 0x1BCA3), (0x1D173, 0x1D17A), (0xE0100, 0xE01EF)]

/-- The printable characters that may not be written. -/
def furtherDisallowed : List CharRange := [
  (0x2024, 0x2026), (0x2488, 0x249B), (0x2FF0, 0x2FFF), (0x31EF, 0x31EF), (0x33C2, 0x33C2),
  (0x33C7, 0x33C7), (0x33D8, 0x33D8), (0xFE12, 0xFE12), (0xFE19, 0xFE19), (0xFE30, 0xFE30),
  (0xFE52, 0xFE52), (0xFFFC, 0xFFFD), (0x1F100, 0x1F100)]

/-- What a character of a domain stands for. -/
inductive Meaning where
  | itself
  | other (text : List Char)
  | disallowed
  deriving DecidableEq, Repr

/-- The one character that a character stands for, if there is one. -/
def mappedChar? (n : Nat) : Option Char :=
  let runs := [mappedLatin, mappedGreekToGeorgian, mappedExtendedLatin, mappedSymbols,
    mappedEastAsian, mappedForms, mappedHigher]
  runs.findSome? fun run => run.findSome? fun r =>
    (placeInRun? r.first r.step n).bind (r.targets.toList[·]?)

/-- The text that a character stands for, if there is one. -/
def expandedText? (n : Nat) : Option String :=
  expandedRuns.findSome? fun r => (placeInRun? r.first r.step n).bind (r.targets[·]?)

/-- What a character of a domain stands for. Joiners stand for themselves. -/
def Meaning.of (c : Char) : Meaning :=
  if c.toNat < 0x80 then if c.isUpper then .other [c.toLower] else .itself
  else if isAmong ignoredRanges c then .other []
  else if c.toNat == 0x200C || c.toNat == 0x200D then .itself
  else
    match mappedChar? c.toNat, expandedText? c.toNat with
    | some target, _ => .other [target]
    | none, some text => .other text.toList
    | none, none =>
        if !isPrintable c || isAmong expandedWithBlanks c || isAmong furtherDisallowed c then
          .disallowed
        else .itself

end SessionTokens.Url
