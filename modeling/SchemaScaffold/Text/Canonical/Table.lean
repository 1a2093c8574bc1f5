import SchemaScaffold.Text.CharImage

/-!
# Canonical equivalence of characters

Which pairs of characters compose to one, which other characters have a decomposition, and the
classes by which marks behind a character are ordered.
-/

namespace SchemaScaffold
namespace Text
namespace Canonical

/-- Pairs with the same second character: the first characters, and what each composes to, in
the same order. -/
structure Compositions where
  second : Nat
  firsts : List String
  composites : List String

/-- The pairs that compose. -/
def compositions : List Compositions := [
  ⟨0x0300,
    ["AEINOUWYaeinouwy¨ÂÊÔÜâêôüĂăĒēŌōƠơƯưΑΕΗΙΟ",
     "ΥΩαεηιουωϊϋЕИеиἀἁἈἉἐἑἘἙἠἡἨἩἰἱἸἹὀὁὈὉὐὑὙὠὡ",
     "ὨὩ᾿῾"],
    ["ÀÈÌǸÒÙẀỲàèìǹòùẁỳ῭ẦỀỒǛầềồǜẰằḔḕṐṑỜờỪừᾺῈῊῚῸ",
     "ῪῺὰὲὴὶὸὺὼῒῢЀЍѐѝἂἃἊἋἒἓἚἛἢἣἪἫἲἳἺἻὂὃὊὋὒὓὛὢὣ",
     "ὪὫ῍῝"]⟩,
  ⟨0x0301,
    ["ACEGIKLMNOPRSUWYZacegiklmnoprsuwyz¨ÂÅÆÇÊ",
     "ÏÔÕØÜâåæçêïôõøüĂăĒēŌōŨũƠơƯưΑΕΗΙΟΥΩαεηιου",
     "ωϊϋϒГКгкἀἁἈἉἐἑἘἙἠἡἨἩἰἱἸἹὀὁὈὉὐὑὙὠὡὨὩ᾿῾"],
    ["ÁĆÉǴÍḰĹḾŃÓṔŔŚÚẂÝŹáćéǵíḱĺḿńóṕŕśúẃýź΅ẤǺǼḈẾ",
     "ḮỐṌǾǗấǻǽḉếḯốṍǿǘẮắḖḗṒṓṸṹỚớỨứΆΈΉΊΌΎΏάέήίόύ",
     "ώΐΰϓЃЌѓќἄἅἌἍἔἕἜἝἤἥἬἭἴἵἼἽὄὅὌὍὔὕὝὤὥὬὭ῎῞"]⟩,
  ⟨0x0302, ["ACEGHIJOSUWYZaceghijosuwyzẠạẸẹỌọ"], ["ÂĈÊĜĤÎĴÔŜÛŴŶẐâĉêĝĥîĵôŝûŵŷẑẬậỆệỘộ"]⟩,
  ⟨0x0303, ["AEINOUVYaeinouvyÂÊÔâêôĂăƠơƯư"], ["ÃẼĨÑÕŨṼỸãẽĩñõũṽỹẪỄỖẫễỗẴẵỠỡỮữ"]⟩,
  ⟨0x0304,
    ["AEGIOUYaegiouyÄÆÕÖÜäæõöüǪǫȦȧȮȯΑΙΥαιυИУиу",
     "ḶḷṚṛ"],
    ["ĀĒḠĪŌŪȲāēḡīōūȳǞǢȬȪǕǟǣȭȫǖǬǭǠǡȰȱᾹῙῩᾱῑῡӢӮӣӯ",
     "ḸḹṜṝ"]⟩,
  ⟨0x0306, ["AEGIOUaegiouȨȩΑΙΥαιυАЕЖИУаежиуẠạ"], ["ĂĔĞĬŎŬăĕğĭŏŭḜḝᾸῘῨᾰῐῠӐӖӁЙЎӑӗӂйўẶặ"]⟩,
  ⟨0x0307,
    ["ABCDEFGHIMNOPRSTWXYZabcdefghmnoprstwxyzŚ",
     "śŠšſṢṣ𐗒𐗚"],
    ["ȦḂĊḊĖḞĠḢİṀṄȮṖṘṠṪẆẊẎŻȧḃċḋėḟġḣṁṅȯṗṙṡṫẇẋẏżṤ",
     "ṥṦṧẛṨṩ𐗉𐗤"]⟩,
  ⟨0x0308,
    ["AEHIOUWXYaehiotuwxyÕõŪūΙΥιυϒІАЕЖЗИОУЧЫЭа",
     "ежзиоучыэіӘәӨө"],
    ["ÄËḦÏÖÜẄẌŸäëḧïöẗüẅẍÿṎṏṺṻΪΫϊϋϔЇӒЁӜӞӤӦӰӴӸӬӓ",
     "ёӝӟӥӧӱӵӹӭїӚӛӪӫ"]⟩,
  ⟨0x0309, ["AEIOUYaeiouyÂÊÔâêôĂăƠơƯư"], ["ẢẺỈỎỦỶảẻỉỏủỷẨỂỔẩểổẲẳỞởỬử"]⟩,
  ⟨0x030A, ["AUauwy"], ["ÅŮåůẘẙ"]⟩,
  ⟨0x030B, ["OUouУу"], ["ŐŰőűӲӳ"]⟩,
  ⟨0x030C, ["ACDEGHIKLNORSTUZacdeghijklnorstuzÜüƷʒ"], ["ǍČĎĚǦȞǏǨĽŇǑŘŠŤǓŽǎčďěǧȟǐǰǩľňǒřšťǔžǙǚǮǯ"]⟩,
  ⟨0x030F, ["AEIORUaeioruѴѵ"], ["ȀȄȈȌȐȔȁȅȉȍȑȕѶѷ"]⟩,
  ⟨0x0311, ["AEIORUaeioru"], ["ȂȆȊȎȒȖȃȇȋȏȓȗ"]⟩,
  ⟨0x0313, ["ΑΕΗΙΟΩαεηιορυω"], ["ἈἘἨἸὈὨἀἐἠἰὀῤὐὠ"]⟩,
  ⟨0x0314, ["ΑΕΗΙΟΡΥΩαεηιορυω"], ["ἉἙἩἹὉῬὙὩἁἑἡἱὁῥὑὡ"]⟩,
  ⟨0x031B, ["OUou"], ["ƠƯơư"]⟩,
  ⟨0x0323,
    ["ABDEHIKLMNORSTUVWYZabdehiklmnorstuvwyzƠơ",
     "Ưư"],
    ["ẠḄḌẸḤỊḲḶṂṆỌṚṢṬỤṾẈỴẒạḅḍẹḥịḳḷṃṇọṛṣṭụṿẉỵẓỢợ",
     "Ựự"]⟩,
  ⟨0x0324, ["Uu"], ["Ṳṳ"]⟩,
  ⟨0x0325, ["Aa"], ["Ḁḁ"]⟩,
  ⟨0x0326, ["STst"], ["ȘȚșț"]⟩,
  ⟨0x0327, ["CDEGHKLNRSTcdeghklnrst"], ["ÇḐȨĢḨĶĻŅŖŞŢçḑȩģḩķļņŗşţ"]⟩,
  ⟨0x0328, ["AEIOUaeiou"], ["ĄĘĮǪŲąęįǫų"]⟩,
  ⟨0x032D, ["DELNTUdelntu"], ["ḒḘḼṊṰṶḓḙḽṋṱṷ"]⟩,
  ⟨0x032E, ["Hh"], ["Ḫḫ"]⟩,
  ⟨0x0330, ["EIUeiu"], ["ḚḬṴḛḭṵ"]⟩,
  ⟨0x0331, ["BDKLNRTZbdhklnrtz"], ["ḆḎḴḺṈṞṮẔḇḏẖḵḻṉṟṯẕ"]⟩,
  ⟨0x0338,
    ["<=>←→↔⇐⇒⇔∃∈∋∣∥∼≃≅≈≍≡≤≥≲≳≶≷≺≻≼≽⊂⊃⊆⊇⊑⊒⊢⊨⊩⊫",
     "⊲⊳⊴⊵"],
    ["≮≠≯↚↛↮⇍⇏⇎∄∉∌∤∦≁≄≇≉≭≢≰≱≴≵≸≹⊀⊁⋠⋡⊄⊅⊈⊉⋢⋣⊬⊭⊮⊯",
     "⋪⋫⋬⋭"]⟩,
  ⟨0x0342, ["¨αηιυωϊϋἀἁἈἉἠἡἨἩἰἱἸἹὐὑὙὠὡὨὩ᾿῾"], ["῁ᾶῆῖῦῶῗῧἆἇἎἏἦἧἮἯἶἷἾἿὖὗὟὦὧὮὯ῏῟"]⟩,
  ⟨0x0345,
    ["ΑΗΩάήαηωώἀἁἂἃἄἅἆἇἈἉἊἋἌἍἎἏἠἡἢἣἤἥἦἧἨἩἪἫἬἭἮ",
     "ἯὠὡὢὣὤὥὦὧὨὩὪὫὬὭὮὯὰὴὼᾶῆῶ"],
    ["ᾼῌῼᾴῄᾳῃῳῴᾀᾁᾂᾃᾄᾅᾆᾇᾈᾉᾊᾋᾌᾍᾎᾏᾐᾑᾒᾓᾔᾕᾖᾗᾘᾙᾚᾛᾜᾝᾞ",
     "ᾟᾠᾡᾢᾣᾤᾥᾦᾧᾨᾩᾪᾫᾬᾭᾮᾯᾲῂῲᾷῇῷ"]⟩,
  ⟨0x0653, ["\u0627"], ["\u0622"]⟩,
  ⟨0x0654, ["\u0627\u0648\u064a\u06c1\u06d2\u06d5"], ["\u0623\u0624\u0626\u06c2\u06d3\u06c0"]⟩,
  ⟨0x0655, ["\u0627"], ["\u0625"]⟩,
  ⟨0x093C, ["नरळ"], ["ऩऱऴ"]⟩,
  ⟨0x09BE, ["\u09c7"], ["\u09cb"]⟩,
  ⟨0x09D7, ["\u09c7"], ["\u09cc"]⟩,
  ⟨0x0B3E, ["\u0b47"], ["\u0b4b"]⟩,
  ⟨0x0B56, ["\u0b47"], ["\u0b48"]⟩,
  ⟨0x0B57, ["\u0b47"], ["\u0b4c"]⟩,
  ⟨0x0BBE, ["\u0bc6\u0bc7"], ["\u0bca\u0bcb"]⟩,
  ⟨0x0BD7, ["ஒ\u0bc6"], ["ஔ\u0bcc"]⟩,
  ⟨0x0C56, ["\u0c46"], ["\u0c48"]⟩,
  ⟨0x0CC2, ["\u0cc6"], ["\u0cca"]⟩,
  ⟨0x0CD5, ["\u0cbf\u0cc6\u0cca"], ["\u0cc0\u0cc7\u0ccb"]⟩,
  ⟨0x0CD6, ["\u0cc6"], ["\u0cc8"]⟩,
  ⟨0x0D3E, ["\u0d46\u0d47"], ["\u0d4a\u0d4b"]⟩,
  ⟨0x0D57, ["\u0d46"], ["\u0d4c"]⟩,
  ⟨0x0DCA, ["\u0dd9\u0ddc"], ["\u0dda\u0ddd"]⟩,
  ⟨0x0DCF, ["\u0dd9"], ["\u0ddc"]⟩,
  ⟨0x0DDF, ["\u0dd9"], ["\u0dde"]⟩,
  ⟨0x102E, ["ဥ"], ["ဦ"]⟩,
  ⟨0x1B35, ["ᬅᬇᬉᬋᬍᬑ\u1b3a\u1b3c\u1b3e\u1b3f\u1b42"], ["ᬆᬈᬊᬌᬎᬒ\u1b3b\u1b3d\u1b40\u1b41\u1b43"]⟩,
  ⟨0x3099,
    ["うかきくけこさしすせそたちつてとはひふへほゝウカキクケコサシスセソタチツテトハヒ",
     "フヘホワヰヱヲヽ"],
    ["ゔがぎぐげござじずぜぞだぢづでどばびぶべぼゞヴガギグゲゴザジズゼゾダヂヅデドバビ",
     "ブベボヷヸヹヺヾ"]⟩,
  ⟨0x309A, ["はひふへほハヒフヘホ"], ["ぱぴぷぺぽパピプペポ"]⟩,
  ⟨0x110BA, ["𑂙𑂛𑂥"], ["𑂚𑂜𑂫"]⟩,
  ⟨0x11127, ["𑄱𑄲"], ["𑄮𑄯"]⟩,
  ⟨0x1133E, ["𑍇"], ["𑍋"]⟩,
  ⟨0x11357, ["𑍇"], ["𑍌"]⟩,
  ⟨0x113B8, ["𑏂"], ["𑏇"]⟩,
  ⟨0x113BB, ["𑎄"], ["𑎅"]⟩,
  ⟨0x113C2, ["𑎎"], ["𑎎𑏅"]⟩,
  ⟨0x113C9, ["𑎂𑎐𑏂"], ["𑎃𑎑𑏈"]⟩,
  ⟨0x114B0, ["𑒹"], ["𑒼"]⟩,
  ⟨0x114BA, ["𑒹"], ["𑒻"]⟩,
  ⟨0x114BD, ["𑒹"], ["𑒾"]⟩,
  ⟨0x115AF, ["𑖸𑖹"], ["𑖺𑖻"]⟩,
  ⟨0x11930, ["𑤵"], ["𑤸"]⟩,
  ⟨0x1611E, ["𖄞"], ["𖄡"]⟩,
  ⟨0x1611F, ["𖄡𖄡𖄩𖄩"], ["𖄣𖄦𖄧𖄤"]⟩,
  ⟨0x16120, ["𖄡𖄞"], ["𖄥𖄨"]⟩,
  ⟨0x16129, ["𖄞"], ["𖄢"]⟩,
  ⟨0x16D67, ["𖵩𖵩"], ["𖵪𖵧𖵪"]⟩]

/-- Decompositions of the characters to which no pair composes. -/
def decompositions : List CharImages := [
  ⟨0x0340, ["\u0300 \u0301"]⟩,
  ⟨0x0343, ["\u0313 \u0308\u0301"]⟩,
  ⟨0x0374, ["ʹ"]⟩,
  ⟨0x037E, [";"]⟩,
  ⟨0x0387, ["·"]⟩,
  ⟨0x0958, ["क\u093c ख\u093c ग\u093c ज\u093c ड\u093c ढ\u093c फ\u093c य\u093c"]⟩,
  ⟨0x09DC, ["ড\u09bc ঢ\u09bc"]⟩,
  ⟨0x09DF, ["য\u09bc"]⟩,
  ⟨0x0A33, ["ਲ\u0a3c"]⟩,
  ⟨0x0A36, ["ਸ\u0a3c"]⟩,
  ⟨0x0A59, ["ਖ\u0a3c ਗ\u0a3c ਜ\u0a3c"]⟩,
  ⟨0x0A5E, ["ਫ\u0a3c"]⟩,
  ⟨0x0B5C, ["ଡ\u0b3c ଢ\u0b3c"]⟩,
  ⟨0x0F43, ["ག\u0fb7"]⟩,
  ⟨0x0F4D, ["ཌ\u0fb7"]⟩,
  ⟨0x0F52, ["ད\u0fb7"]⟩,
  ⟨0x0F57, ["བ\u0fb7"]⟩,
  ⟨0x0F5C, ["ཛ\u0fb7"]⟩,
  ⟨0x0F69, ["ཀ\u0fb5"]⟩,
  ⟨0x0F73, ["\u0f71\u0f72"]⟩,
  ⟨0x0F75, ["\u0f71\u0f74 \u0fb2\u0f80"]⟩,
  ⟨0x0F78, ["\u0fb3\u0f80"]⟩,
  ⟨0x0F81, ["\u0f71\u0f80"]⟩,
  ⟨0x0F93, ["\u0f92\u0fb7"]⟩,
  ⟨0x0F9D, ["\u0f9c\u0fb7"]⟩,
  ⟨0x0FA2, ["\u0fa1\u0fb7"]⟩,
  ⟨0x0FA7, ["\u0fa6\u0fb7"]⟩,
  ⟨0x0FAC, ["\u0fab\u0fb7"]⟩,
  ⟨0x0FB9, ["\u0f90\u0fb5"]⟩,
  ⟨0x1F71, ["α\u0301"]⟩,
  ⟨0x1F73, ["ε\u0301"]⟩,
  ⟨0x1F75, ["η\u0301"]⟩,
  ⟨0x1F77, ["ι\u0301"]⟩,
  ⟨0x1F79, ["ο\u0301"]⟩,
  ⟨0x1F7B, ["υ\u0301"]⟩,
  ⟨0x1F7D, ["ω\u0301"]⟩,
  ⟨0x1FBB, ["Α\u0301"]⟩,
  ⟨0x1FBE, ["ι"]⟩,
  ⟨0x1FC9, ["Ε\u0301"]⟩,
  ⟨0x1FCB, ["Η\u0301"]⟩,
  ⟨0x1FD3, ["ι\u0308\u0301"]⟩,
  ⟨0x1FDB, ["Ι\u0301"]⟩,
  ⟨0x1FE3, ["υ\u0308\u0301"]⟩,
  ⟨0x1FEB, ["Υ\u0301"]⟩,
  ⟨0x1FEE, ["¨\u0301 `"]⟩,
  ⟨0x1FF9, ["Ο\u0301"]⟩,
  ⟨0x1FFB, ["Ω\u0301"]⟩,
  ⟨0x1FFD, ["´"]⟩,
  ⟨0x2000, ["\u2002 \u2003"]⟩,
  ⟨0x2126, ["Ω"]⟩,
  ⟨0x212A, ["K A\u030a"]⟩,
  ⟨0x2329, ["〈 〉"]⟩,
  ⟨0x2ADC, ["⫝\u0338"]⟩,
  ⟨0xF900, [
    "豈 更 車 賈 滑 串 句 龜 龜 契 金 喇 奈 懶 癩 羅 蘿 螺 裸 邏 樂 洛 烙 珞 落 酪 駱 亂 卵 欄 爛 蘭 鸞 嵐 濫 藍 襤 拉 臘 蠟 廊 朗 浪 狼",
    "郎 來 冷 勞 擄 櫓 爐 盧 老 蘆 虜 路 露 魯 鷺 碌 祿 綠 菉 錄 鹿 論 壟 弄 籠 聾 牢 磊 賂 雷 壘 屢 樓 淚 漏 累 縷 陋 勒 肋 凜 凌 稜 綾",
    "菱 陵 讀 拏 樂 諾 丹 寧 怒 率 異 北 磻 便 復 不 泌 數 索 參 塞 省 葉 說 殺 辰 沈 拾 若 掠 略 亮 兩 凉 梁 糧 良 諒 量 勵 呂 女 廬 旅",
    "濾 礪 閭 驪 麗 黎 力 曆 歷 轢 年 憐 戀 撚 漣 煉 璉 秊 練 聯 輦 蓮 連 鍊 列 劣 咽 烈 裂 說 廉 念 捻 殮 簾 獵 令 囹 寧 嶺 怜 玲 瑩 羚",
    "聆 鈴 零 靈 領 例 禮 醴 隸 惡 了 僚 寮 尿 料 樂 燎 療 蓼 遼 龍 暈 阮 劉 杻 柳 流 溜 琉 留 硫 紐 類 六 戮 陸 倫 崙 淪 輪 律 慄 栗 率",
    "隆 利 吏 履 易 李 梨 泥 理 痢 罹 裏 裡 里 離 匿 溺 吝 燐 璘 藺 隣 鱗 麟 林 淋 臨 立 笠 粒 狀 炙 識 什 茶 刺 切 度 拓 糖 宅 洞 暴 輻",
    "行 降 見 廓 兀 嗀"]⟩,
  ⟨0xFA10, ["塚"]⟩,
  ⟨0xFA12, ["晴"]⟩,
  ⟨0xFA15, ["凞 猪 益 礼 神 祥 福 靖 精 羽"]⟩,
  ⟨0xFA20, ["蘒"]⟩,
  ⟨0xFA22, ["諸"]⟩,
  ⟨0xFA25, ["逸 都"]⟩,
  ⟨0xFA2A, [
    "飯 飼 館 鶴 郞 隷 侮 僧 免 勉 勤 卑 喝 嘆 器 塀 墨 層 屮 悔 慨 憎 懲 敏 既 暑 梅 海 渚 漢 煮 爫 琢 碑 社 祉 祈 祐 祖 祝 禍 禎 穀 突",
    "節 練 縉 繁 署 者 臭 艹 艹 著 褐 視 謁 謹 賓 贈 辶 逸 難 響 頻 恵 𤋮 舘"]⟩,
  ⟨0xFA70, [
    "並 况 全 侀 充 冀 勇 勺 喝 啕 喙 嗢 塚 墳 奄 奔 婢 嬨 廒 廙 彩 徭 惘 慎 愈 憎 慠 懲 戴 揄 搜 摒 敖 晴 朗 望 杖 歹 殺 流 滛 滋 漢 瀞",
    "煮 瞧 爵 犯 猪 瑱 甆 画 瘝 瘟 益 盛 直 睊 着 磌 窱 節 类 絛 練 缾 者 荒 華 蝹 襁 覆 視 調 諸 請 謁 諾 諭 謹 變 贈 輸 遲 醙 鉶 陼 難",
    "靖 韛 響 頋 頻 鬒 龜 𢡊 𢡄 𣏕 㮝 䀘 䀹 𥉉 𥳐 𧻓 齃 龎"]⟩,
  ⟨0xFB1D, ["\u05d9\u05b4"]⟩,
  ⟨0xFB1F, ["\u05f2\u05b7"]⟩,
  ⟨0xFB2A, [
    "\u05e9\u05c1 \u05e9\u05c2 \u05e9\u05bc\u05c1 \u05e9\u05bc\u05c2 \u05d0\u05b7",
    "\u05d0\u05b8 \u05d0\u05bc \u05d1\u05bc \u05d2\u05bc \u05d3\u05bc \u05d4\u05bc",
    "\u05d5\u05bc \u05d6\u05bc"]⟩,
  ⟨0xFB38, ["\u05d8\u05bc \u05d9\u05bc \u05da\u05bc \u05db\u05bc \u05dc\u05bc"]⟩,
  ⟨0xFB3E, ["\u05de\u05bc"]⟩,
  ⟨0xFB40, ["\u05e0\u05bc \u05e1\u05bc"]⟩,
  ⟨0xFB43, ["\u05e3\u05bc \u05e4\u05bc"]⟩,
  ⟨0xFB46, [
    "\u05e6\u05bc \u05e7\u05bc \u05e8\u05bc \u05e9\u05bc \u05ea\u05bc \u05d5\u05b9",
    "\u05d1\u05bf \u05db\u05bf \u05e4\u05bf"]⟩,
  ⟨0x1D15E, ["𝅗𝅥 𝅘𝅥 𝅘𝅥𝅮 𝅘𝅥𝅯 𝅘𝅥𝅰 𝅘𝅥𝅱 𝅘𝅥𝅲"]⟩,
  ⟨0x1D1BB, ["𝆹𝅥 𝆺𝅥 𝆹𝅥𝅮 𝆺𝅥𝅮 𝆹𝅥𝅯 𝆺𝅥𝅯"]⟩,
  ⟨0x2F800, [
    "丽 丸 乁 𠄢 你 侮 侻 倂 偺 備 僧 像 㒞 𠘺 免 兔 兤 具 𠔜 㒹 內 再 𠕋 冗 冤 仌 冬 况 𩇟 凵 刃 㓟 刻 剆 割 剷 㔕 勇 勉 勤 勺 包 匆 北",
    "卉 卑 博 即 卽 卿 卿 卿 𠨬 灰 及 叟 𠭣 叫 叱 吆 咞 吸 呈 周 咢 哶 唐 啓 啣 善 善 喙 喫 喳 嗂 圖 嘆 圗 噑 噴 切 壮 城 埴 堍 型 堲 報",
    "墬 𡓤 売 壷 夆 多 夢 奢 𡚨 𡛪 姬 娛 娧 姘 婦 㛮 㛼 嬈 嬾 嬾 𡧈 寃 寘 寧 寳 𡬘 寿 将 当 尢 㞁 屠 屮 峀 岍 𡷤 嵃 𡷦 嵮 嵫 嵼 巡 巢 㠯",
    "巽 帨 帽 幩 㡢 𢆃 㡼 庰 庳 庶 廊 𪎒 廾 𢌱 𢌱 舁 弢 弢 㣇 𣊸 𦇚 形 彫 㣣 徚 忍 志 忹 悁 㤺 㤜 悔 𢛔 惇 慈 慌 慎 慌 慺 憎 憲 憤 憯 懞",
    "懲 懶 成 戛 扝 抱 拔 捐 𢬌 挽 拼 捨 掃 揤 𢯱 搢 揅 掩 㨮 摩 摾 撝 摷 㩬 敏 敬 𣀊 旣 書 晉 㬙 暑 㬈 㫤 冒 冕 最 暜 肭 䏙 朗 望 朡 杞",
    "杓 𣏃 㭉 柺 枅 桒 梅 𣑭 梎 栟 椔 㮝 楂 榣 槪 檨 𣚣 櫛 㰘 次 𣢧 歔 㱎 歲 殟 殺 殻 𣪍 𡴋 𣫺 汎 𣲼 沿 泍 汧 洖 派 海 流 浩 浸 涅 𣴞 洴",
    "港 湮 㴳 滋 滇 𣻑 淹 潮 𣽞 𣾎 濆 瀹 瀞 瀛 㶖 灊 災 灷 炭 𠔥 煅 𤉣 熜 𤎫 爨 爵 牐 𤘈 犀 犕 𤜵 𤠔 獺 王 㺬 玥 㺸 㺸 瑇 瑜 瑱 璅 瓊 㼛",
    "甤 𤰶 甾 𤲒 異 𢆟 瘐 𤾡 𤾸 𥁄 㿼 䀈 直 𥃳 𥃲 𥄙 𥄳 眞 真 真 睊 䀹 瞋 䁆 䂖 𥐝 硎 碌 磌 䃣 𥘦 祖 𥚚 𥛅 福 秫 䄯 穀 穊 穏 𥥼 𥪧 𥪧 竮",
    "䈂 𥮫 篆 築 䈧 𥲀 糒 䊠 糨 糣 紀 𥾆 絣 䌁 緇 縂 繅 䌴 𦈨 𦉇 䍙 𦋙 罺 𦌾 羕 翺 者 𦓚 𦔣 聠 𦖨 聰 𣍟 䏕 育 脃 䐋 脾 媵 𦞧 𦞵 𣎓 𣎜 舁",
    "舄 辞 䑫 芑 芋 芝 劳 花 芳 芽 苦 𦬼 若 茝 荣 莭 茣 莽 菧 著 荓 菊 菌 菜 𦰶 𦵫 𦳕 䔫 蓱 蓳 蔖 𧏊 蕤 𦼬 䕝 䕡 𦾱 𧃒 䕫 虐 虜 虧 虩 蚩",
    "蚈 蜎 蛢 蝹 蜨 蝫 螆 䗗 蟡 蠁 䗹 衠 衣 𧙧 裗 裞 䘵 裺 㒻 𧢮 𧥦 䚾 䛇 誠 諭 變 豕 𧲨 貫 賁 贛 起 𧼯 𠠄 跋 趼 跰 𠣞 軔 輸 𨗒 𨗭 邔 郱",
    "鄑 𨜮 鄛 鈸 鋗 鋘 鉼 鏹 鐕 𨯺 開 䦕 閷 𨵷 䧦 雃 嶲 霣 𩅅 𩈚 䩮 䩶 韠 𩐊 䪲 𩒖 頋 頋 頩 𩖶 飢 䬳 餩 馧 駂 駾 䯎 𩬰 鬒 鱀 鳽 䳎 䳭 鵧",
    "𪃎 䳸 𪄅 𪈎 𪊑 麻 䵖 黹 黾 鼅 鼏 鼖 鼻 𪘀"]⟩]

/-- The class of a mark, with the ranges of its marks. Characters without a class have class 0. -/
def classes : List (Nat × List (Nat × Nat)) := [
  (1, [(0x0334, 0x0338), (0x1CD4, 0x1CD4), (0x1CE2, 0x1CE8), (0x20D2, 0x20D3), (0x20D8, 0x20DA),
    (0x20E5, 0x20E6), (0x20EA, 0x20EB), (0x10A39, 0x10A39), (0x16AF0, 0x16AF4), (0x1BC9E, 0x1BC9E),
    (0x1D167, 0x1D169)]),
  (6, [(0x16FF0, 0x16FF1)]),
  (7, [(0x093C, 0x093C), (0x09BC, 0x09BC), (0x0A3C, 0x0A3C), (0x0ABC, 0x0ABC), (0x0B3C, 0x0B3C),
    (0x0C3C, 0x0C3C), (0x0CBC, 0x0CBC), (0x1037, 0x1037), (0x1B34, 0x1B34), (0x1BE6, 0x1BE6),
    (0x1C37, 0x1C37), (0xA9B3, 0xA9B3), (0x110BA, 0x110BA), (0x11173, 0x11173), (0x111CA, 0x111CA),
    (0x11236, 0x11236), (0x112E9, 0x112E9), (0x1133B, 0x1133C), (0x11446, 0x11446),
    (0x114C3, 0x114C3), (0x115C0, 0x115C0), (0x116B7, 0x116B7), (0x1183A, 0x1183A),
    (0x11943, 0x11943), (0x11D42, 0x11D42), (0x1E94A, 0x1E94A)]),
  (8, [(0x3099, 0x309A)]),
  (9, [(0x094D, 0x094D), (0x09CD, 0x09CD), (0x0A4D, 0x0A4D), (0x0ACD, 0x0ACD), (0x0B4D, 0x0B4D),
    (0x0BCD, 0x0BCD), (0x0C4D, 0x0C4D), (0x0CCD, 0x0CCD), (0x0D3B, 0x0D3C), (0x0D4D, 0x0D4D),
    (0x0DCA, 0x0DCA), (0x0E3A, 0x0E3A), (0x0EBA, 0x0EBA), (0x0F84, 0x0F84), (0x1039, 0x103A),
    (0x1714, 0x1715), (0x1734, 0x1734), (0x17D2, 0x17D2), (0x1A60, 0x1A60), (0x1B44, 0x1B44),
    (0x1BAA, 0x1BAB), (0x1BF2, 0x1BF3), (0x2D7F, 0x2D7F), (0xA806, 0xA806), (0xA82C, 0xA82C),
    (0xA8C4, 0xA8C4), (0xA953, 0xA953), (0xA9C0, 0xA9C0), (0xAAF6, 0xAAF6), (0xABED, 0xABED),
    (0x10A3F, 0x10A3F), (0x11046, 0x11046), (0x11070, 0x11070), (0x1107F, 0x1107F),
    (0x110B9, 0x110B9), (0x11133, 0x11134), (0x111C0, 0x111C0), (0x11235, 0x11235),
    (0x112EA, 0x112EA), (0x1134D, 0x1134D), (0x113CE, 0x113D0), (0x11442, 0x11442),
    (0x114C2, 0x114C2), (0x115BF, 0x115BF), (0x1163F, 0x1163F), (0x116B6, 0x116B6),
    (0x1172B, 0x1172B), (0x11839, 0x11839), (0x1193D, 0x1193E), (0x119E0, 0x119E0),
    (0x11A34, 0x11A34), (0x11A47, 0x11A47), (0x11A99, 0x11A99), (0x11C3F, 0x11C3F),
    (0x11D44, 0x11D45), (0x11D97, 0x11D97), (0x11F41, 0x11F42), (0x1612F, 0x1612F)]),
  (10, [(0x05B0, 0x05B0)]),
  (11, [(0x05B1, 0x05B1)]),
  (12, [(0x05B2, 0x05B2)]),
  (13, [(0x05B3, 0x05B3)]),
  (14, [(0x05B4, 0x05B4)]),
  (15, [(0x05B5, 0x05B5)]),
  (16, [(0x05B6, 0x05B6)]),
  (17, [(0x05B7, 0x05B7)]),
  (18, [(0x05B8, 0x05B8), (0x05C7, 0x05C7)]),
  (19, [(0x05B9, 0x05BA)]),
  (20, [(0x05BB, 0x05BB)]),
  (21, [(0x05BC, 0x05BC)]),
  (22, [(0x05BD, 0x05BD)]),
  (23, [(0x05BF, 0x05BF)]),
  (24, [(0x05C1, 0x05C1)]),
  (25, [(0x05C2, 0x05C2)]),
  (26, [(0xFB1E, 0xFB1E)]),
  (27, [(0x064B, 0x064B), (0x08F0, 0x08F0)]),
  (28, [(0x064C, 0x064C), (0x08F1, 0x08F1)]),
  (29, [(0x064D, 0x064D), (0x08F2, 0x08F2)]),
  (30, [(0x0618, 0x0618), (0x064E, 0x064E)]),
  (31, [(0x0619, 0x0619), (0x064F, 0x064F)]),
  (32, [(0x061A, 0x061A), (0x0650, 0x0650)]),
  (33, [(0x0651, 0x0651)]),
  (34, [(0x0652, 0x0652)]),
  (35, [(0x0670, 0x0670)]),
  (36, [(0x0711, 0x0711)]),
  (84, [(0x0C55, 0x0C55)]),
  (91, [(0x0C56, 0x0C56)]),
  (103, [(0x0E38, 0x0E39)]),
  (107, [(0x0E48, 0x0E4B)]),
  (118, [(0x0EB8, 0x0EB9)]),
  (122, [(0x0EC8, 0x0ECB)]),
  (129, [(0x0F71, 0x0F71)]),
  (130, [(0x0F72, 0x0F72), (0x0F7A, 0x0F7D), (0x0F80, 0x0F80)]),
  (132, [(0x0F74, 0x0F74)]),
  (202, [(0x0321, 0x0322), (0x0327, 0x0328), (0x1DD0, 0x1DD0)]),
  (214, [(0x1DCE, 0x1DCE)]),
  (216, [(0x031B, 0x031B), (0x0F39, 0x0F39), (0x1D165, 0x1D166), (0x1D16E, 0x1D172)]),
  (218, [(0x1DFA, 0x1DFA), (0x302A, 0x302A)]),
  (220, [(0x0316, 0x0319), (0x031C, 0x0320), (0x0323, 0x0326), (0x0329, 0x0333), (0x0339, 0x033C),
    (0x0347, 0x0349), (0x034D, 0x034E), (0x0353, 0x0356), (0x0359, 0x035A), (0x0591, 0x0591),
    (0x0596, 0x0596), (0x059B, 0x059B), (0x05A2, 0x05A7), (0x05AA, 0x05AA), (0x05C5, 0x05C5),
    (0x0655, 0x0656), (0x065C, 0x065C), (0x065F, 0x065F), (0x06E3, 0x06E3), (0x06EA, 0x06EA),
    (0x06ED, 0x06ED), (0x0731, 0x0731), (0x0734, 0x0734), (0x0737, 0x0739), (0x073B, 0x073C),
    (0x073E, 0x073E), (0x0742, 0x0742), (0x0744, 0x0744), (0x0746, 0x0746), (0x0748, 0x0748),
    (0x07F2, 0x07F2), (0x07FD, 0x07FD), (0x0859, 0x085B), (0x0899, 0x089B), (0x08CF, 0x08D3),
    (0x08E3, 0x08E3), (0x08E6, 0x08E6), (0x08E9, 0x08E9), (0x08ED, 0x08EF), (0x08F6, 0x08F6),
    (0x08F9, 0x08FA), (0x0952, 0x0952), (0x0F18, 0x0F19), (0x0F35, 0x0F35), (0x0F37, 0x0F37),
    (0x0FC6, 0x0FC6), (0x108D, 0x108D), (0x193B, 0x193B), (0x1A18, 0x1A18), (0x1A7F, 0x1A7F),
    (0x1AB5, 0x1ABA), (0x1ABD, 0x1ABD), (0x1ABF, 0x1AC0), (0x1AC3, 0x1AC4), (0x1ACA, 0x1ACA),
    (0x1ADD, 0x1ADD), (0x1AE6, 0x1AE6), (0x1B6C, 0x1B6C), (0x1CD5, 0x1CD9), (0x1CDC, 0x1CDF),
    (0x1CED, 0x1CED), (0x1DC2, 0x1DC2), (0x1DCA, 0x1DCA), (0x1DCF, 0x1DCF), (0x1DF9, 0x1DF9),
    (0x1DFD, 0x1DFD), (0x1DFF, 0x1DFF), (0x20E8, 0x20E8), (0x20EC, 0x20EF), (0xA92B, 0xA92D),
    (0xAAB4, 0xAAB4), (0xFE27, 0xFE2D), (0x101FD, 0x101FD), (0x102E0, 0x102E0), (0x10A0D, 0x10A0D),
    (0x10A3A, 0x10A3A), (0x10AE6, 0x10AE6), (0x10EFA, 0x10EFB), (0x10EFD, 0x10EFF),
    (0x10F46, 0x10F47), (0x10F4B, 0x10F4B), (0x10F4D, 0x10F50), (0x10F83, 0x10F83),
    (0x10F85, 0x10F85), (0x1D17B, 0x1D182), (0x1D18A, 0x1D18B), (0x1E4EE, 0x1E4EE),
    (0x1E5EF, 0x1E5EF), (0x1E8D0, 0x1E8D6)]),
  (222, [(0x059A, 0x059A), (0x05AD, 0x05AD), (0x1939, 0x1939), (0x302D, 0x302D)]),
  (224, [(0x302E, 0x302F)]),
  (226, [(0x1D16D, 0x1D16D)]),
  (228, [(0x05AE, 0x05AE), (0x18A9, 0x18A9), (0x1DF7, 0x1DF8), (0x302B, 0x302B)]),
  (230, [(0x0300, 0x0314), (0x033D, 0x033F), (0x0342, 0x0342), (0x0346, 0x0346), (0x034A, 0x034C),
    (0x0350, 0x0352), (0x0357, 0x0357), (0x035B, 0x035B), (0x0363, 0x036F), (0x0483, 0x0487),
    (0x0592, 0x0595), (0x0597, 0x0599), (0x059C, 0x05A1), (0x05A8, 0x05A9), (0x05AB, 0x05AC),
    (0x05AF, 0x05AF), (0x05C4, 0x05C4), (0x0610, 0x0617), (0x0653, 0x0654), (0x0657, 0x065B),
    (0x065D, 0x065E), (0x06D6, 0x06DC), (0x06DF, 0x06E2), (0x06E4, 0x06E4), (0x06E7, 0x06E8),
    (0x06EB, 0x06EC), (0x0730, 0x0730), (0x0732, 0x0733), (0x0735, 0x0736), (0x073A, 0x073A),
    (0x073D, 0x073D), (0x073F, 0x0741), (0x0743, 0x0743), (0x0745, 0x0745), (0x0747, 0x0747),
    (0x0749, 0x074A), (0x07EB, 0x07F1), (0x07F3, 0x07F3), (0x0816, 0x0819), (0x081B, 0x0823),
    (0x0825, 0x0827), (0x0829, 0x082D), (0x0897, 0x0898), (0x089C, 0x089F), (0x08CA, 0x08CE),
    (0x08D4, 0x08E1), (0x08E4, 0x08E5), (0x08E7, 0x08E8), (0x08EA, 0x08EC), (0x08F3, 0x08F5),
    (0x08F7, 0x08F8), (0x08FB, 0x08FF), (0x0951, 0x0951), (0x0953, 0x0954), (0x09FE, 0x09FE),
    (0x0F82, 0x0F83), (0x0F86, 0x0F87), (0x135D, 0x135F), (0x17DD, 0x17DD), (0x193A, 0x193A),
    (0x1A17, 0x1A17), (0x1A75, 0x1A7C), (0x1AB0, 0x1AB4), (0x1ABB, 0x1ABC), (0x1AC1, 0x1AC2),
    (0x1AC5, 0x1AC9), (0x1ACB, 0x1ADC), (0x1AE0, 0x1AE5), (0x1AE7, 0x1AEA), (0x1B6B, 0x1B6B),
    (0x1B6D, 0x1B73), (0x1CD0, 0x1CD2), (0x1CDA, 0x1CDB), (0x1CE0, 0x1CE0), (0x1CF4, 0x1CF4),
    (0x1CF8, 0x1CF9), (0x1DC0, 0x1DC1), (0x1DC3, 0x1DC9), (0x1DCB, 0x1DCC), (0x1DD1, 0x1DF5),
    (0x1DFB, 0x1DFB), (0x1DFE, 0x1DFE), (0x20D0, 0x20D1), (0x20D4, 0x20D7), (0x20DB, 0x20DC),
    (0x20E1, 0x20E1), (0x20E7, 0x20E7), (0x20E9, 0x20E9), (0x20F0, 0x20F0), (0x2CEF, 0x2CF1),
    (0x2DE0, 0x2DFF), (0xA66F, 0xA66F), (0xA674, 0xA67D), (0xA69E, 0xA69F), (0xA6F0, 0xA6F1),
    (0xA8E0, 0xA8F1), (0xAAB0, 0xAAB0), (0xAAB2, 0xAAB3), (0xAAB7, 0xAAB8), (0xAABE, 0xAABF),
    (0xAAC1, 0xAAC1), (0xFE20, 0xFE26), (0xFE2E, 0xFE2F), (0x10376, 0x1037A), (0x10A0F, 0x10A0F),
    (0x10A38, 0x10A38), (0x10AE5, 0x10AE5), (0x10D24, 0x10D27), (0x10D69, 0x10D6D),
    (0x10EAB, 0x10EAC), (0x10F48, 0x10F4A), (0x10F4C, 0x10F4C), (0x10F82, 0x10F82),
    (0x10F84, 0x10F84), (0x11100, 0x11102), (0x11366, 0x1136C), (0x11370, 0x11374),
    (0x1145E, 0x1145E), (0x16B30, 0x16B36), (0x1D185, 0x1D189), (0x1D1AA, 0x1D1AD),
    (0x1D242, 0x1D244), (0x1E000, 0x1E006), (0x1E008, 0x1E018), (0x1E01B, 0x1E021),
    (0x1E023, 0x1E024), (0x1E026, 0x1E02A), (0x1E08F, 0x1E08F), (0x1E130, 0x1E136),
    (0x1E2AE, 0x1E2AE), (0x1E2EC, 0x1E2EF), (0x1E4EF, 0x1E4EF), (0x1E5EE, 0x1E5EE),
    (0x1E6E3, 0x1E6E3), (0x1E6E6, 0x1E6E6), (0x1E6EE, 0x1E6EF), (0x1E6F5, 0x1E6F5),
    (0x1E944, 0x1E949)]),
  (232, [(0x0315, 0x0315), (0x031A, 0x031A), (0x0358, 0x0358), (0x1DF6, 0x1DF6), (0x302C, 0x302C),
    (0x1E4EC, 0x1E4ED)]),
  (233, [(0x035C, 0x035C), (0x035F, 0x035F), (0x0362, 0x0362), (0x1DFC, 0x1DFC)]),
  (234, [(0x035D, 0x035E), (0x0360, 0x0361), (0x1AEB, 0x1AEB), (0x1DCD, 0x1DCD)]),
  (240, [(0x0345, 0x0345)])]

end Canonical
end Text
end SchemaScaffold
