/-!
Spelling with ASCII letters: Latin letters lose their marks, Greek and Cyrillic letters are
transcribed, and the most frequent Han characters are spelled by sound.
-/

namespace LivePages.Text

/-- A spelling with the characters that are spelled so. -/
def spellings : List (String × String) :=
  [("A", "ÀÁÂÃÄÅĀĂĄǍǞǠǺȀȂȦΆΑАḀẠẢẤẦẨẪẬẮẰẲẴẶ"), ("AE", "Æ"), ("C", "ÇĆĈĊČḈ"),
   ("E", "ÈÉÊËĒĔĖĘĚȄȆȨΈΉΕΗЕЭḔḖḘḚḜẸẺẼẾỀỂỄỆ"), ("I", "ÌÍÎÏĨĪĬĮİǏȈȊΊΙИЙḬḮỈỊ"), ("D", "ÐĎĐΔДḊḌḎḐḒ"),
   ("N", "ÑŃŅŇǸΝНṄṆṈṊ"), ("O", "ÒÓÔÕÖØŌŎŐƠǑǪǬȌȎȪȬȮȰΌΏΟΩОṌṎṐṒỌỎỐỒỔỖỘỚỜỞỠỢ"), ("x", "×ξẋẍ"),
   ("U", "ÙÚÛÜŨŪŬŮŰŲƯǓǕǗǙǛȔȖΎΥУṲṴṶṸṺỤỦỨỪỬỮỰ"), ("Y", "ÝŶŸȲЫẎỲỴỶỸ"), ("Th", "ÞΘ"), ("ss", "ß"),
   ("a", "àáâãäåāăąǎǟǡǻȁȃȧάαаḁạảấầẩẫậắằẳẵặ"), ("ae", "æ"), ("c", "çćĉċčḉ"),
   ("e", "èéêëēĕėęěȅȇȩέήεηеэḕḗḙḛḝẹẻẽếềểễệ"), ("i", "ìíîïĩīĭįıǐȉȋίιийḭḯỉị"), ("d", "ðďđδдḋḍḏḑḓ"),
   ("n", "ñńņňǹνнṅṇṉṋ"), ("o", "òóôõöøōŏőơǒǫǭȍȏȫȭȯȱοωόώоṍṏṑṓọỏốồổỗộớờởỡợ"),
   ("u", "ùúûüũūŭůűųưǔǖǘǚǜȕȗυύуṳṵṷṹṻụủứừửữự"), ("y", "ýÿŷȳыẏẙỳỵỷỹ"), ("th", "þθ"),
   ("G", "ĜĞĠĢǦǴΓГḠ"), ("g", "ĝğġģǧǵγгḡ"), ("H", "ĤĦȞḢḤḦḨḪ"), ("h", "ĥħȟḣḥḧḩḫẖ"), ("J", "Ĵ"),
   ("j", "ĵǰ"), ("K", "ĶǨΚКḰḲḴ"), ("k", "ķĸǩκкḱḳḵ"), ("L", "ĹĻĽŁΛЛḶḸḺḼ"), ("l", "ĺļľłλлḷḹḻḽ"),
   ("Ng", "Ŋ"), ("ng", "ŋ"), ("OE", "Œ"), ("oe", "œ"), ("R", "ŔŖŘȐȒΡРṘṚṜṞ"), ("r", "ŕŗřȑȓρрṙṛṝṟ"),
   ("S", "ŚŜŞŠȘΣСṠṢṤṦṨ"), ("s", "śŝşšſșςσсṡṣṥṧṩ"), ("T", "ŢŤŦȚΤТṪṬṮṰ"), ("t", "ţťŧțτтṫṭṯṱẗ"),
   ("W", "ŴẀẂẄẆẈ"), ("w", "ŵẁẃẅẇẉẘ"), ("Z", "ŹŻŽΖЗẐẒẔ"), ("z", "źżžζзẑẓẕ"), ("B", "ΒБḂḄḆ"),
   ("M", "ΜМḾṀṂ"), ("X", "ΞẊẌ"), ("P", "ΠПṔṖ"), ("Ph", "Φ"), ("Kh", "ΧХ"), ("Ps", "Ψ"),
   ("b", "βбḃḅḇ"), ("m", "μмḿṁṃ"), ("p", "πпṕṗ"), ("ph", "φ"), ("kh", "χх"), ("ps", "ψ"),
   ("Io", "Ё"), ("V", "ВṼṾ"), ("Zh", "Ж"), ("F", "ФḞ"), ("Ts", "Ц"), ("Ch", "Ч"), ("Sh", "Ш"),
   ("Shch", "Щ"), ("'", "ЪЬъь‘’"), ("Iu", "Ю"), ("Ia", "Я"), ("v", "вṽṿ"), ("zh", "ж"),
   ("f", "фḟ"), ("ts", "ц"), ("ch", "ч"), ("sh", "ш"), ("shch", "щ"), ("iu", "ю"), ("ia", "я"),
   ("io", "ё"), ("Ss", "ẞ"), ("-", "–—"), ("\"", "“”"), ("...", "…"), ("Yi ", "一以已意"),
   ("San ", "三"), ("Shang ", "上"), ("Xia ", "下"), ("Bu ", "不部"), ("Yu ", "与于語语"),
   ("Shi ", "世事使十实时是"), ("Ye ", "业也"), ("Dong ", "东动東"), ("Liang ", "两"), ("Ge ", "个"),
   ("Zhong ", "中种重"), ("Wei ", "为"), ("Zhu ", "主"), ("Me ", "么"), ("Zhi ", "之只知"), ("Le ", "了"),
   ("Xie ", "些"), ("Jing ", "京经"), ("Ren ", "人"), ("Cong ", "从"), ("Ta ", "他她它"), ("Men ", "们"),
   ("Hui ", "会"), ("Dan ", "但"), ("Zuo ", "作"), ("Ni ", "你"), ("Quan ", "全"), ("Gong ", "公工"),
   ("Guan ", "关"), ("Qi ", "其起"), ("Jun ", "军"), ("Chu ", "出"), ("Fen ", "分"), ("Dao ", "到道"),
   ("Qian ", "前"), ("Li ", "力理里"), ("Bao ", "包"), ("Bei ", "北"), ("Nan ", "南"), ("Qu ", "去"),
   ("You ", "又有由"), ("Fa ", "发法"), ("Ke ", "可"), ("Tong ", "同"), ("Ming ", "名明"), ("Hou ", "后"),
   ("He ", "和"), ("Yin ", "因"), ("Guo ", "国过"), ("Tu ", "土"), ("Zai ", "在"), ("Di ", "地第"),
   ("Wai ", "外"), ("Duo ", "多"), ("Da ", "大"), ("Tian ", "天"), ("Hao ", "好"), ("Ru ", "如"),
   ("Zi ", "子字自"), ("Xue ", "学"), ("Ding ", "定"), ("Jia ", "家"), ("Dui ", "对"), ("Jiang ", "将"),
   ("Xiao ", "小"), ("Jiu ", "就"), ("Shan ", "山"), ("Nian ", "年"), ("Kai ", "开"), ("Dang ", "当"),
   ("Hen ", "很"), ("De ", "得的"), ("Xin ", "心"), ("Xing ", "性行"), ("Qing ", "情"), ("Xiang ", "想"),
   ("Cheng ", "成"), ("Wo ", "我"), ("Suo ", "所"), ("Ba ", "把"), ("Wen ", "文问"), ("Fang ", "方"),
   ("Wu ", "无"), ("Ri ", "日"), ("Zui ", "最"), ("Yue ", "月"), ("Mu ", "木"), ("Ben ", "本"),
   ("Ji ", "机"), ("Lai ", "来"), ("Yang ", "样"), ("Zheng ", "正"), ("Ci ", "此"), ("Min ", "民"),
   ("Shui ", "水"), ("Mei ", "没"), ("Hai ", "海"), ("Huo ", "火"), ("Dian ", "点"), ("Ran ", "然"),
   ("Xian ", "现"), ("Sheng ", "生"), ("Yong ", "用"), ("Jie ", "界"), ("Kan ", "看"), ("Zhao ", "着"),
   ("Zhe ", "者这"), ("Er ", "而"), ("Neng ", "能"), ("Xi ", "西"), ("Yao ", "要"), ("Shuo ", "说"),
   ("Huan ", "还"), ("Jin ", "进金"), ("Na ", "那"), ("Du ", "都"), ("Chang ", "长"), ("Jian ", "间"),
   ("Mian ", "面"), ("Gao ", "高")]

def spelling? (c : Char) : Option String :=
  (spellings.find? fun p => p.2.toList.contains c).map (·.1)

/-- Letters and digits of a text in lower case, with a single dash for all that lies between them. -/
def slugFrom (pending started : Bool) : List Char → List Char
  | [] => []
  | c :: r =>
    if c.isAlphanum then
      (if pending && started then ['-', c.toLower] else [c.toLower]) ++ slugFrom false true r
    else slugFrom true started r

def slug (s : List Char) : List Char :=
  slugFrom false false
    (s.flatMap fun c => if c.toNat < 128 then [c] else ((spelling? c).getD "-").toList)

end LivePages.Text
