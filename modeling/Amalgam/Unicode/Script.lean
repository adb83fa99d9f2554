import Amalgam.Unicode.Runs

namespace Amalgam.Unicode.Script

/-- The scripts by their codes of four letters, with their names in full. -/
def names : List (String × List String) := [
  ("Adlm", ["Adlam"]), ("Aghb", ["Caucasian_Albanian"]), ("Ahom", ["Ahom"]),
  ("Arab", ["Arabic"]), ("Armi", ["Imperial_Aramaic"]), ("Armn", ["Armenian"]),
  ("Avst", ["Avestan"]), ("Bali", ["Balinese"]), ("Bamu", ["Bamum"]), ("Bass", ["Bassa_Vah"]),
  ("Batk", ["Batak"]), ("Beng", ["Bengali"]), ("Bhks", ["Bhaiksuki"]), ("Bopo", ["Bopomofo"]),
  ("Brah", ["Brahmi"]), ("Brai", ["Braille"]), ("Bugi", ["Buginese"]), ("Buhd", ["Buhid"]),
  ("Cakm", ["Chakma"]), ("Cans", ["Canadian_Aboriginal"]), ("Cari", ["Carian"]),
  ("Cham", ["Cham"]), ("Cher", ["Cherokee"]), ("Chrs", ["Chorasmian"]),
  ("Copt", ["Coptic", "Qaac"]), ("Cpmn", ["Cypro_Minoan"]), ("Cprt", ["Cypriot"]),
  ("Cyrl", ["Cyrillic"]), ("Deva", ["Devanagari"]), ("Diak", ["Dives_Akuru"]),
  ("Dogr", ["Dogra"]), ("Dsrt", ["Deseret"]), ("Dupl", ["Duployan"]),
  ("Egyp", ["Egyptian_Hieroglyphs"]), ("Elba", ["Elbasan"]), ("Elym", ["Elymaic"]),
  ("Ethi", ["Ethiopic"]), ("Gara", ["Garay"]), ("Geor", ["Georgian"]), ("Glag", ["Glagolitic"]),
  ("Gong", ["Gunjala_Gondi"]), ("Gonm", ["Masaram_Gondi"]), ("Goth", ["Gothic"]),
  ("Gran", ["Grantha"]), ("Grek", ["Greek"]), ("Gujr", ["Gujarati"]), ("Gukh", ["Gurung_Khema"]),
  ("Guru", ["Gurmukhi"]), ("Hang", ["Hangul"]), ("Hani", ["Han"]), ("Hano", ["Hanunoo"]),
  ("Hatr", ["Hatran"]), ("Hebr", ["Hebrew"]), ("Hira", ["Hiragana"]),
  ("Hluw", ["Anatolian_Hieroglyphs"]), ("Hmng", ["Pahawh_Hmong"]),
  ("Hmnp", ["Nyiakeng_Puachue_Hmong"]), ("Hung", ["Old_Hungarian"]), ("Ital", ["Old_Italic"]),
  ("Java", ["Javanese"]), ("Kali", ["Kayah_Li"]), ("Kana", ["Katakana"]), ("Kawi", ["Kawi"]),
  ("Khar", ["Kharoshthi"]), ("Khmr", ["Khmer"]), ("Khoj", ["Khojki"]),
  ("Kits", ["Khitan_Small_Script"]), ("Knda", ["Kannada"]), ("Krai", ["Kirat_Rai"]),
  ("Kthi", ["Kaithi"]), ("Lana", ["Tai_Tham"]), ("Laoo", ["Lao"]), ("Latn", ["Latin"]),
  ("Lepc", ["Lepcha"]), ("Limb", ["Limbu"]), ("Lina", ["Linear_A"]), ("Linb", ["Linear_B"]),
  ("Lisu", ["Lisu"]), ("Lyci", ["Lycian"]), ("Lydi", ["Lydian"]), ("Mahj", ["Mahajani"]),
  ("Maka", ["Makasar"]), ("Mand", ["Mandaic"]), ("Mani", ["Manichaean"]), ("Marc", ["Marchen"]),
  ("Medf", ["Medefaidrin"]), ("Mend", ["Mende_Kikakui"]), ("Merc", ["Meroitic_Cursive"]),
  ("Mero", ["Meroitic_Hieroglyphs"]), ("Mlym", ["Malayalam"]), ("Modi", ["Modi"]),
  ("Mong", ["Mongolian"]), ("Mroo", ["Mro"]), ("Mtei", ["Meetei_Mayek"]), ("Mult", ["Multani"]),
  ("Mymr", ["Myanmar"]), ("Nagm", ["Nag_Mundari"]), ("Nand", ["Nandinagari"]),
  ("Narb", ["Old_North_Arabian"]), ("Nbat", ["Nabataean"]), ("Newa", ["Newa"]),
  ("Nkoo", ["Nko"]), ("Nshu", ["Nushu"]), ("Ogam", ["Ogham"]), ("Olck", ["Ol_Chiki"]),
  ("Onao", ["Ol_Onal"]), ("Orkh", ["Old_Turkic"]), ("Orya", ["Oriya"]), ("Osge", ["Osage"]),
  ("Osma", ["Osmanya"]), ("Ougr", ["Old_Uyghur"]), ("Palm", ["Palmyrene"]),
  ("Pauc", ["Pau_Cin_Hau"]), ("Perm", ["Old_Permic"]), ("Phag", ["Phags_Pa"]),
  ("Phli", ["Inscriptional_Pahlavi"]), ("Phlp", ["Psalter_Pahlavi"]), ("Phnx", ["Phoenician"]),
  ("Plrd", ["Miao"]), ("Prti", ["Inscriptional_Parthian"]), ("Rjng", ["Rejang"]),
  ("Rohg", ["Hanifi_Rohingya"]), ("Runr", ["Runic"]), ("Samr", ["Samaritan"]),
  ("Sarb", ["Old_South_Arabian"]), ("Saur", ["Saurashtra"]), ("Sgnw", ["SignWriting"]),
  ("Shaw", ["Shavian"]), ("Shrd", ["Sharada"]), ("Sidd", ["Siddham"]), ("Sind", ["Khudawadi"]),
  ("Sinh", ["Sinhala"]), ("Sogd", ["Sogdian"]), ("Sogo", ["Old_Sogdian"]),
  ("Sora", ["Sora_Sompeng"]), ("Soyo", ["Soyombo"]), ("Sund", ["Sundanese"]),
  ("Sunu", ["Sunuwar"]), ("Sylo", ["Syloti_Nagri"]), ("Syrc", ["Syriac"]),
  ("Tagb", ["Tagbanwa"]), ("Takr", ["Takri"]), ("Tale", ["Tai_Le"]), ("Talu", ["New_Tai_Lue"]),
  ("Taml", ["Tamil"]), ("Tang", ["Tangut"]), ("Tavt", ["Tai_Viet"]), ("Telu", ["Telugu"]),
  ("Tfng", ["Tifinagh"]), ("Tglg", ["Tagalog"]), ("Thaa", ["Thaana"]), ("Thai", ["Thai"]),
  ("Tibt", ["Tibetan"]), ("Tirh", ["Tirhuta"]), ("Tnsa", ["Tangsa"]), ("Todr", ["Todhri"]),
  ("Toto", ["Toto"]), ("Tutg", ["Tulu_Tigalari"]), ("Ugar", ["Ugaritic"]), ("Vaii", ["Vai"]),
  ("Vith", ["Vithkuqi"]), ("Wara", ["Warang_Citi"]), ("Wcho", ["Wancho"]),
  ("Xpeo", ["Old_Persian"]), ("Xsux", ["Cuneiform"]), ("Yezi", ["Yezidi"]), ("Yiii", ["Yi"]),
  ("Zanb", ["Zanabazar_Square"]), ("Zinh", ["Inherited", "Qaai"]), ("Zyyy", ["Common"])]

/-- The lengths of the runs of one script from code point 0 on, each with the script. -/
def runTexts : List String := [
  "41Zyyy1aLatn6Zyyy1aLatn2fZyyy1LatnfZyyy1Latn5Zyyy17Latn1Zyyy1fLatn1Zyyy1c1Latn27Zyyy5Latn5Zyyy",
  "2Bopo14Zyyy70Zinh4Grek1Zyyy3Grek2Zzzz4Grek1Zyyy1Grek4Zzzz1Grek1Zyyy1Grek1Zyyy3Grek1Zzzz1Grek",
  "1Zzzz14Grek1Zzzz3fGrekeCopt10Grek85Cyrl2Zinha9Cyrl1Zzzz26Armn2Zzzz32Armn2Zzzz3Armn1Zzzz37Hebr",
  "8Zzzz1bHebr4Zzzz6HebrbZzzz5Arab1Zyyy6Arab1ZyyyeArab1Zyyy3Arab1Zyyy20Arab1ZyyyaArabbZinh1aArab",
  "1Zinh6cArab1Zyyy22ArabeSyrc1Zzzz3cSyrc2Zzzz3Syrc30Arab32ThaaeZzzz3bNkoo2Zzzz3Nkoo2eSamr2Zzzz",
  "fSamr1Zzzz1cMand2Zzzz1Mand1ZzzzbSyrc5Zzzz1fArab1Zzzz2Arab5Zzzz4bArab1Zyyy1dArab51Deva4ZinhfDeva",
  "2Zyyy1aDeva4Beng1Zzzz8Beng2Zzzz2Beng2Zzzz16Beng1Zzzz7Beng1Zzzz1Beng3Zzzz4Beng2Zzzz9Beng2Zzzz",
  "2Beng2Zzzz4Beng8Zzzz1Beng4Zzzz2Beng1Zzzz5Beng2Zzzz19Beng2Zzzz3Guru1Zzzz6Guru4Zzzz2Guru2Zzzz",
  "16Guru1Zzzz7Guru1Zzzz2Guru1Zzzz2Guru1Zzzz2Guru2Zzzz1Guru1Zzzz5Guru4Zzzz2Guru2Zzzz3Guru3Zzzz1Guru",
  "7Zzzz4Guru1Zzzz1Guru7Zzzz11GuruaZzzz3Gujr1Zzzz9Gujr1Zzzz3Gujr1Zzzz16Gujr1Zzzz7Gujr1Zzzz2Gujr",
  "1Zzzz5Gujr2ZzzzaGujr1Zzzz3Gujr1Zzzz3Gujr2Zzzz1GujrfZzzz4Gujr2ZzzzcGujr7Zzzz7Gujr1Zzzz3Orya1Zzzz",
  "8Orya2Zzzz2Orya2Zzzz16Orya1Zzzz7Orya1Zzzz2Orya1Zzzz5Orya2Zzzz9Orya2Zzzz2Orya2Zzzz3Orya7Zzzz3Orya",
  "4Zzzz2Orya1Zzzz5Orya2Zzzz12OryaaZzzz2Taml1Zzzz6Taml3Zzzz3Taml1Zzzz4Taml3Zzzz2Taml1Zzzz1Taml1Zzzz",
  "2Taml3Zzzz2Taml3Zzzz3Taml3ZzzzcTaml4Zzzz5Taml3Zzzz3Taml1Zzzz4Taml2Zzzz1Taml6Zzzz1TamleZzzz15Taml",
  "5ZzzzdTelu1Zzzz3Telu1Zzzz17Telu1Zzzz10Telu2Zzzz9Telu1Zzzz3Telu1Zzzz4Telu7Zzzz2Telu1Zzzz3Telu",
  "2Zzzz1Telu2Zzzz4Telu2ZzzzaTelu7Zzzz9TeludKnda1Zzzz3Knda1Zzzz17Knda1ZzzzaKnda1Zzzz5Knda2Zzzz9Knda",
  "1Zzzz3Knda1Zzzz4Knda7Zzzz2Knda6Zzzz2Knda1Zzzz4Knda2ZzzzaKnda1Zzzz3KndacZzzzdMlym1Zzzz3Mlym1Zzzz",
  "33Mlym1Zzzz3Mlym1Zzzz6Mlym4Zzzz10Mlym2Zzzz1aMlym1Zzzz3Sinh1Zzzz12Sinh3Zzzz18Sinh1Zzzz9Sinh1Zzzz",
  "1Sinh2Zzzz7Sinh3Zzzz1Sinh4Zzzz6Sinh1Zzzz1Sinh1Zzzz8Sinh6ZzzzaSinh2Zzzz3SinhcZzzz3aThai4Zzzz1Zyyy",
  "1cThai25Zzzz2Laoo1Zzzz1Laoo1Zzzz5Laoo1Zzzz18Laoo1Zzzz1Laoo1Zzzz17Laoo2Zzzz5Laoo1Zzzz1Laoo1Zzzz",
  "7Laoo1ZzzzaLaoo2Zzzz4Laoo20Zzzz48Tibt1Zzzz24Tibt4Zzzz27Tibt1Zzzz24Tibt1ZzzzfTibt1Zzzz7Tibt4Zyyy",
  "2Tibt25Zzzza0Mymr26Geor1Zzzz1Geor5Zzzz1Geor2Zzzz2bGeor1Zyyy4Geor100Hang49Ethi1Zzzz4Ethi2Zzzz",
  "7Ethi1Zzzz1Ethi1Zzzz4Ethi2Zzzz29Ethi1Zzzz4Ethi2Zzzz21Ethi1Zzzz4Ethi2Zzzz7Ethi1Zzzz1Ethi1Zzzz",
  "4Ethi2ZzzzfEthi1Zzzz39Ethi1Zzzz4Ethi2Zzzz43Ethi2Zzzz20Ethi3Zzzz1aEthi6Zzzz56Cher2Zzzz6Cher2Zzzz",
  "280Cans1dOgam3Zzzz4bRunr3ZyyybRunr7Zzzz16Tglg9Zzzz1Tglg15Hano2Zyyy9Zzzz14BuhdcZzzzdTagb1Zzzz",
  "3Tagb1Zzzz2TagbcZzzz5eKhmr2ZzzzaKhmr6ZzzzaKhmr6Zzzz2Mong2Zyyy1Mong1Zyyy14Mong6Zzzz59Mong7Zzzz",
  "2bMong5Zzzz46CansaZzzz1fLimb1ZzzzcLimb4ZzzzcLimb4Zzzz1Limb3ZzzzcLimb1eTale2Zzzz5TalebZzzz2cTalu",
  "4Zzzz1aTalu6ZzzzbTalu3Zzzz2Talu20Khmr1cBugi2Zzzz2Bugi3fLana1Zzzz1dLana2ZzzzbLana6ZzzzaLana6Zzzz",
  "eLana2Zzzz1fZinh31Zzzz4dBali1Zzzz32Bali40Sund34Batk8Zzzz4Batk38Lepc3ZzzzfLepc3Zzzz3Lepc30Olck",
  "bCyrl5Zzzz2bGeor2Zzzz3Geor8Sund8Zzzz3Zinh1ZyyydZinh1Zyyy7Zinh4Zyyy1Zinh6Zyyy1Zinh3Zyyy2Zinh1Zyyy",
  "5Zzzz26Latn5Grek1Cyrl31Latn5Grek4Latn5GrekdLatn1Cyrl46Latn1Grek40Zinh100Latn16Grek2Zzzz6Grek",
  "2Zzzz26Grek2Zzzz6Grek2Zzzz8Grek1Zzzz1Grek1Zzzz1Grek1Zzzz1Grek1Zzzz1fGrek2Zzzz35Grek1ZzzzfGrek",
  "1ZzzzeGrek2Zzzz6Grek1Zzzz13Grek2Zzzz3Grek1Zzzz9Grek1ZzzzcZyyy2Zinh57Zyyy1ZzzzbZyyy1Latn2Zzzz",
  "bZyyy1LatnfZyyy1ZzzzdLatn3Zzzz21ZyyyfZzzz21ZinhfZzzz26Zyyy1Grek3Zyyy2Latn6Zyyy1Latn1bZyyy1Latn",
  "11Zyyy29Latn3Zyyy4Zzzz29aZyyy16ZzzzbZyyy15Zzzz3a0Zyyy100Brai274Zyyy2Zzzz20Zyyy1Zzzz69Zyyy60Glag",
  "20Latn74Copt5Zzzz7Copt26Geor1Zzzz1Geor5Zzzz1Geor2Zzzz38Tfng7Zzzz2TfngeZzzz1Tfng17Ethi9Zzzz7Ethi",
  "1Zzzz7Ethi1Zzzz7Ethi1Zzzz7Ethi1Zzzz7Ethi1Zzzz7Ethi1Zzzz7Ethi1Zzzz7Ethi1Zzzz20Cyrl5eZyyy22Zzzz",
  "1aHani1Zzzz59HanicZzzzd6Hani1aZzzz15Zyyy1Hani1Zyyy1Hani19Zyyy9Hani4Zinh2Hang8Zyyy4Hani4Zyyy1Zzzz",
  "56Hira2Zzzz2Zinh2Zyyy3Hira1Zyyy5aKana2Zyyy3Kana5Zzzz2bBopo1Zzzz5eHang1Zzzz10Zyyy20Bopo26Zyyy",
  "9Zzzz1Zyyy10Kana1fHang1Zzzz40Zyyy1fHang51Zyyy2fKana1Zyyy58Kanaa8Zyyy19c0Hani40Zyyy5200Hani",
  "48dYiii3Zzzz37Yiii9Zzzz30Lisu12cVaii14Zzzz60Cyrl58Bamu8Zzzz22Zyyy66Latn3Zyyy43Latn2Zzzz2Latn",
  "1Zzzz1Latn1Zzzz8Latn15ZzzzeLatn2dSylo3ZzzzaZyyy6Zzzz38Phag8Zzzz46Saur8ZzzzcSaur6Zzzz20Deva2eKali",
  "1Zyyy1Kali24RjngbZzzz1Rjng1dHang3Zzzz4eJava1Zzzz1ZyyyaJava4Zzzz2Java1fMymr1Zzzz37Cham9ZzzzeCham",
  "2ZzzzaCham2Zzzz4Cham20Mymr43Tavt18Zzzz5Tavt17MteiaZzzz6Ethi2Zzzz6Ethi2Zzzz6Ethi9Zzzz7Ethi1Zzzz",
  "7Ethi1Zzzz2bLatn1Zyyy9Latn1Grek4Latn2Zyyy4Zzzz50Cher2eMtei2ZzzzaMtei6Zzzz2ba4HangcZzzz17Hang",
  "4Zzzz31Hang2104Zzzz16eHani2Zzzz6aHani26Zzzz7LatncZzzz5Armn5Zzzz1aHebr1Zzzz5Hebr1Zzzz1Hebr1Zzzz",
  "2Hebr1Zzzz2Hebr1ZzzzaHebr73Arab10Zzzz16bArab2Zyyy50Arab2Zzzz36Arab7Zzzz1Arab20Zzzz10Arab10Zinh",
  "aZyyy6ZzzzeZinh2Cyrl23Zyyy1Zzzz13Zyyy1Zzzz4Zyyy4Zzzz5Arab1Zzzz87Arab2Zzzz1Zyyy1Zzzz20Zyyy1aLatn",
  "6Zyyy1aLatnbZyyyaKana1Zyyy2dKana2Zyyy1fHang3Zzzz6Hang2Zzzz6Hang2Zzzz6Hang2Zzzz3Hang3Zzzz7Zyyy",
  "1Zzzz7ZyyyaZzzz5Zyyy2ZzzzcLinb1Zzzz1aLinb1Zzzz13Linb1Zzzz2Linb1ZzzzfLinb2ZzzzeLinb22Zzzz7bLinb",
  "5Zzzz3Zyyy4Zzzz2dZyyy3Zzzz9Zyyy4fGrek1ZzzzdZyyy3Zzzz1Grek2fZzzz2dZyyy1Zinh82Zzzz1dLyci3Zzzz",
  "31CarifZzzz1Zinh1bZyyy4Zzzz24Ital9Zzzz3Ital1bGoth5Zzzz2bPerm5Zzzz1eUgar1Zzzz1Ugar24Xpeo4Zzzz",
  "eXpeo2aZzzz50Dsrt30Shaw1eOsma2ZzzzaOsma6Zzzz24Osge4Zzzz24Osge4Zzzz28Elba8Zzzz34AghbbZzzz1Aghb",
  "bVith1ZzzzfVith1Zzzz7Vith1Zzzz2Vith1ZzzzbVith1ZzzzfVith1Zzzz7Vith1Zzzz2Vith3Zzzz34TodrcZzzz",
  "137Lina9Zzzz16LinaaZzzz8Lina18Zzzz6Latn1Zzzz2aLatn1Zzzz9Latn45Zzzz6Cprt2Zzzz1Cprt1Zzzz2cCprt",
  "1Zzzz2Cprt3Zzzz1Cprt2Zzzz1Cprt16Armi1Zzzz9Armi20Palm1fNbat8Zzzz9Nbat30Zzzz13Hatr1Zzzz2Hatr5Zzzz",
  "5Hatr1cPhnx3Zzzz1Phnx1aLydi5Zzzz1Lydi40Zzzz20Mero18Merc4Zzzz14Merc2Zzzz2eMerc4Khar1Zzzz2Khar",
  "5Zzzz8Khar1Zzzz3Khar1Zzzz1dKhar2Zzzz3Khar4ZzzzaKhar7Zzzz9Khar7Zzzz20Sarb20Narb20Zzzz27Mani4Zzzz",
  "cMani9Zzzz36Avst3Zzzz7Avst16Prti2Zzzz8Prti13Phli5Zzzz8Phli12Phlp7Zzzz4PhlpcZzzz7Phlp50Zzzz49Orkh",
  "37Zzzz33HungdZzzz33Hung7Zzzz6Hung28Rohg8ZzzzaRohg6Zzzz26Gara3Zzzz1dGara8Zzzz2Garad0Zzzz1fArab",
  "1Zzzz2aYezi1Zzzz3Yezi2Zzzz2Yezi10Zzzz3Arab37Zzzz4Arab28Sogo8Zzzz2aSogd16Zzzz1aOugr26Zzzz1cChrs",
  "14Zzzz17Elym9Zzzz4eBrah4Zzzz24Brah9Zzzz1Brah43KthiaZzzz1Kthi2Zzzz19Sora7ZzzzaSora6Zzzz35Cakm",
  "1Zzzz12Cakm8Zzzz27Mahj9Zzzz60Shrd1Zzzz14SinhbZzzz12Khoj1Zzzz2fKhoj3eZzzz7Mult1Zzzz1Mult1Zzzz",
  "4Mult1ZzzzfMult1ZzzzbMult6Zzzz3bSind5ZzzzaSind6Zzzz4Gran1Zzzz8Gran2Zzzz2Gran2Zzzz16Gran1Zzzz",
  "7Gran1Zzzz2Gran1Zzzz5Gran1Zzzz1Zinh9Gran2Zzzz2Gran2Zzzz3Gran2Zzzz1Gran6Zzzz1Gran5Zzzz7Gran2Zzzz",
  "7Gran3Zzzz5GranbZzzzaTutg1Zzzz1Tutg2Zzzz1Tutg1Zzzz26Tutg1ZzzzaTutg1Zzzz1Tutg2Zzzz1Tutg1Zzzz4Tutg",
  "1ZzzzaTutg1Zzzz2Tutg8Zzzz2Tutg1dZzzz5cNewa1Zzzz5Newa1eZzzz48Tirh8ZzzzaTirha6Zzzz36Sidd2Zzzz",
  "26Sidd22Zzzz45ModibZzzzaModi6ZzzzdMong13Zzzz3aTakr6ZzzzaTakr6Zzzz14Mymr1cZzzz1bAhom2ZzzzfAhom",
  "4Zzzz17Ahomb9Zzzz3cDogr64Zzzz53WaracZzzz1Wara7Diak2Zzzz1Diak2Zzzz8Diak1Zzzz2Diak1Zzzz1eDiak1Zzzz",
  "2Diak2ZzzzcDiak9ZzzzaDiak46Zzzz8Nand2Zzzz2eNand2ZzzzbNand1bZzzz48Zanb8Zzzz53SoyodZzzz10Cans",
  "39Pauc7ZzzzaDevab6Zzzz22SunueZzzzaSunu6Zzzz9Bhks1Zzzz2dBhks1ZzzzeBhksaZzzz1dBhks3Zzzz20Marc2Zzzz",
  "16Marc1ZzzzeMarc49Zzzz7Gonm1Zzzz2Gonm1Zzzz2cGonm3Zzzz1Gonm1Zzzz2Gonm1Zzzz9Gonm8ZzzzaGonm6Zzzz",
  "6Gong1Zzzz2Gong1Zzzz25Gong1Zzzz2Gong1Zzzz6Gong7ZzzzaGong136Zzzz19Maka7Zzzz11Kawi1Zzzz29Kawi3Zzzz",
  "1dKawi55Zzzz1LisufZzzz32TamldZzzz1Taml39aXsux66Zzzz6fXsux1Zzzz5XsuxbZzzzc4Xsuxa4cZzzz63CpmndZzzz",
  "456EgypaZzzzf9bEgyp5Zzzz247Hluw1ab9Zzzz3aGukh6c6Zzzz239Bamu7Zzzz1fMroo1ZzzzaMroo4Zzzz2Mroo4fTnsa",
  "1ZzzzaTnsa6Zzzz1eBass2Zzzz6BassaZzzz46HmngaZzzzaHmng1Zzzz7Hmng1Zzzz15Hmng5Zzzz13Hmng1b0Zzzz",
  "3aKraic6Zzzz5bMedf65Zzzz4bPlrd4Zzzz39Plrd7Zzzz11Plrd40Zzzz1Tang1Nshu2Hani1KitsbZzzz2HanieZzzz",
  "17f8Tang8Zzzz300Tang1d6Kits29Zzzz1Kits9Tang22e7Zzzz4Kana1Zzzz7Kana1Zzzz2Kana1Zzzz1Kana11fHira",
  "3KanafZzzz1Hira1dZzzz3Hira2Zzzz1KanaeZzzz4Kana8Zzzz18cNshu904Zzzz6bDupl5ZzzzdDupl3Zzzz9Dupl7Zzzz",
  "aDupl2Zzzz4Dupl4Zyyyf5cZzzzfaZyyy6Zzzz1b4Zyyy4cZzzz2eZinh2Zzzz17Zinh9Zzzz74Zyyy3cZzzzf6ZyyyaZzzz",
  "27Zyyy2Zzzz3eZyyy3Zinh11Zyyy8Zinh2Zyyy7Zinh1eZyyy4Zinh3dZyyy15Zzzz46Grek7aZzzz14ZyyycZzzz14Zyyy",
  "cZzzz57Zyyy9Zzzz19Zyyy87Zzzz55Zyyy1Zzzz47Zyyy1Zzzz2Zyyy2Zzzz1Zyyy2Zzzz2Zyyy2Zzzz4Zyyy1ZzzzcZyyy",
  "1Zzzz1Zyyy1Zzzz7Zyyy1Zzzz41Zyyy1Zzzz4Zyyy2Zzzz8Zyyy1Zzzz7Zyyy1Zzzz1cZyyy1Zzzz4Zyyy1Zzzz5Zyyy",
  "1Zzzz1Zyyy3Zzzz7Zyyy1Zzzz154Zyyy2Zzzz124Zyyy2Zzzz32Zyyy28cSgnwfZzzz5Sgnw1ZzzzfSgnw450Zzzz1fLatn",
  "6Zzzz6Latnd5Zzzz7Glag1Zzzz11Glag2Zzzz7Glag1Zzzz2Glag1Zzzz5Glag5Zzzz3eCyrl21Zzzz1Cyrl70Zzzz2dHmnp",
  "3ZzzzeHmnp2ZzzzaHmnp4Zzzz2Hmnp140Zzzz1fToto11Zzzz3aWcho5Zzzz1Wcho1d0Zzzz2aNagmd6Zzzz2bOnao4Zzzz",
  "1Onao1e0Zzzz7Ethi1Zzzz4Ethi1Zzzz2Ethi1ZzzzfEthi1Zzzzc5Mend2Zzzz10Mend29Zzzz4cAdlm4ZzzzaAdlm4Zzzz",
  "2Adlm311Zzzz44Zyyy4cZzzz3dZyyyc2Zzzz4Arab1Zzzz1bArab1Zzzz2Arab1Zzzz1Arab2Zzzz1Arab1ZzzzaArab",
  "1Zzzz4Arab1Zzzz1Arab1Zzzz1Arab6Zzzz1Arab4Zzzz1Arab1Zzzz1Arab1Zzzz1Arab1Zzzz3Arab1Zzzz2Arab1Zzzz",
  "1Arab2Zzzz1Arab1Zzzz1Arab1Zzzz1Arab1Zzzz1Arab1Zzzz1Arab1Zzzz2Arab1Zzzz1Arab2Zzzz4Arab1Zzzz7Arab",
  "1Zzzz4Arab1Zzzz4Arab1Zzzz1Arab1ZzzzaArab1Zzzz11Arab5Zzzz3Arab1Zzzz5Arab1Zzzz11Arab34Zzzz2Arab",
  "10eZzzz2cZyyy4Zzzz64ZyyycZzzzfZyyy2ZzzzfZyyy1ZzzzfZyyy1Zzzz25ZyyyaZzzzaeZyyy38Zzzz1aZyyy1Hira",
  "2ZyyydZzzz2cZyyy4Zzzz9Zyyy7Zzzz2ZyyyeZzzz6Zyyy9aZzzz3d8Zyyy4Zzzz11Zyyy3ZzzzdZyyy3Zzzz77Zyyy4Zzzz",
  "5fZyyy6ZzzzcZyyy4Zzzz1ZyyyfZzzzcZyyy4Zzzz38Zyyy8ZzzzaZyyy6Zzzz28Zyyy8Zzzz1eZyyy2ZzzzcZyyy4Zzzz",
  "2Zyyy3eZzzz154ZyyycZzzzeZyyy2ZzzzdZyyy3ZzzzaZyyy5Zzzz38Zyyy7ZzzzfZyyy2ZzzzbZyyy6Zzzz9Zyyy7Zzzz",
  "93Zyyy1Zzzz66Zyyy406Zzzza6e0Hani20Zzzz103aHani6ZzzzdeHani2Zzzz1682HanieZzzz1d31HanifZzzz26eHani",
  "9a2Zzzz21eHani5e2Zzzz134bHani5Zzzz1060Haniadc51Zzzz1Zyyy1eZzzz60Zyyy80Zzzzf0Zinh2fe10Zzzz"]

def runs : Runs String :=
  Runs.ofTexts 4 id runTexts

/-- The code points of a script. -/
def set (script : String) : CodeSet :=
  runs.set (· == script)

/-- The code points whose scripts are not just their own one, with the scripts. -/
def extensionTexts : List (List String × String) := [
  (["Adlm", "Arab"], "204f"),
  (["Adlm", "Arab", "Gara", "Nkoo", "Rohg", "Syrc", "Thaa", "Yezi"], "61f"),
  (["Adlm", "Arab", "Hung"], "2e41"),
  (["Adlm", "Arab", "Mand", "Mani", "Ougr", "Phlp", "Rohg", "Sogd", "Syrc"], "640"),
  (["Aghb", "Cher", "Copt", "Cyrl", "Goth", "Grek", "Latn", "Osge", "Syrc", "Tfng", "Todr"], "304"),
  (["Aghb", "Cher", "Goth", "Latn", "Sunu", "Thai"], "331"),
  (["Aghb", "Latn", "Todr"], "35e"),
  (["Arab", "Copt"], "102e0-102fb"),
  (["Arab", "Gara", "Nkoo", "Rohg", "Syrc", "Thaa", "Yezi"], "60c 61b"),
  (["Arab", "Nkoo"], "fd3e-fd3f"),
  (["Arab", "Rohg"], "6d4"),
  (["Arab", "Syrc"], "64b-655 670"),
  (["Arab", "Syrc", "Thaa"], "61c"),
  (["Arab", "Thaa"], "fdf2 fdfd"),
  (["Arab", "Thaa", "Yezi"], "660-669"),
  (["Armn", "Cyrl", "Dupl", "Goth", "Grek", "Hebr", "Latn", "Perm", "Syrc", "Tale"], "308"),
  (["Armn", "Geor", "Glag"], "589"),
  (["Avst", "Cari", "Copt", "Dupl", "Elba", "Geor", "Glag", "Gong", "Goth", "Grek", "Hani",
    "Latn", "Lydi", "Mahj", "Perm", "Shaw"],
    "b7"),
  (["Avst", "Cari", "Geor", "Hung", "Kthi", "Lydi", "Samr"], "2e31"),
  (["Avst", "Orkh"], "2e30"),
  (["Beng"], "1cf7"),
  (["Beng", "Cakm", "Sylo"], "9e6-9ef"),
  (["Beng", "Cyrl", "Deva", "Latn", "Lisu", "Thai", "Toto"], "2bc"),
  (["Beng", "Deva"], "1cd5-1cd6 1cd8 1ce1 1cea 1ced 1cf5-1cf6"),
  (["Beng", "Deva", "Dogr", "Gong", "Gonm", "Gran", "Gujr", "Gukh", "Guru", "Knda", "Limb",
    "Mahj", "Mlym", "Nand", "Onao", "Orya", "Sind", "Sinh", "Sylo", "Takr", "Taml", "Telu",
    "Tirh"],
    "965"),
  (["Beng", "Deva", "Dogr", "Gong", "Gonm", "Gran", "Gujr", "Guru", "Knda", "Mahj", "Mlym",
    "Nand", "Onao", "Orya", "Sind", "Sinh", "Sylo", "Takr", "Taml", "Telu", "Tirh"],
    "964"),
  (["Beng", "Deva", "Gran", "Gujr", "Guru", "Knda", "Latn", "Mlym", "Orya", "Shrd", "Taml",
    "Telu", "Tirh"],
    "951"),
  (["Beng", "Deva", "Gran", "Gujr", "Guru", "Knda", "Latn", "Mlym", "Orya", "Taml", "Telu",
    "Tirh"],
    "952"),
  (["Beng", "Deva", "Gran", "Knda"], "1cd0 1cd2"),
  (["Beng", "Deva", "Gran", "Knda", "Mlym", "Nand", "Orya", "Sinh", "Telu", "Tirh", "Tutg"], "1cf2"),
  (["Beng", "Deva", "Tutg"], "a8f1"),
  (["Bopo", "Hang", "Hani", "Hira", "Kana"], "3003 3013 301c-301f 3030 3037 fe45-fe46"),
  (["Bopo", "Hang", "Hani", "Hira", "Kana", "Lisu", "Mong", "Tibt", "Yiii"], "300a-300b"),
  (["Bopo", "Hang", "Hani", "Hira", "Kana", "Mong", "Phag", "Yiii"], "3002"),
  (["Bopo", "Hang", "Hani", "Hira", "Kana", "Mong", "Tibt", "Yiii"], "3008-3009"),
  (["Bopo", "Hang", "Hani", "Hira", "Kana", "Mong", "Yiii"], "3001"),
  (["Bopo", "Hang", "Hani", "Hira", "Kana", "Yiii"], "300c-3011 3014-301b 30fb ff61-ff65"),
  (["Bopo", "Hani"], "302a-302d"),
  (["Bopo", "Latn"], "2c7 2c9-2cb 2d9"),
  (["Bugi", "Java"], "a9cf"),
  (["Buhd", "Hano", "Tagb", "Tglg"], "1735-1736"),
  (["Cakm", "Mymr", "Tale"], "1040-1049"),
  (["Cari", "Geor", "Glag", "Hung", "Lyci", "Orkh"], "205a"),
  (["Cari", "Grek", "Hung", "Mero"], "205d"),
  (["Cher", "Copt", "Cyrl", "Grek", "Latn", "Perm", "Sunu", "Tale"], "300"),
  (["Cher", "Cyrl", "Grek", "Latn", "Osge", "Sunu", "Tale", "Todr"], "301"),
  (["Cher", "Cyrl", "Latn", "Osge"], "30b"),
  (["Cher", "Cyrl", "Latn", "Tfng"], "302"),
  (["Cher", "Dupl", "Kana", "Latn", "Syrc"], "323"),
  (["Cher", "Dupl", "Latn", "Syrc"], "324"),
  (["Cher", "Latn", "Syrc"], "330"),
  (["Cher", "Latn", "Tale"], "30c"),
  (["Copt", "Dupl", "Hebr", "Latn", "Perm", "Syrc", "Tale", "Tfng", "Todr"], "307"),
  (["Copt", "Elba", "Glag", "Goth", "Kana", "Latn"], "305"),
  (["Copt", "Grek"], "374-375"),
  (["Copt", "Latn"], "2e17"),
  (["Cpmn", "Cprt", "Linb"], "10100-10101"),
  (["Cprt", "Lina", "Linb"], "10107-10133"),
  (["Cprt", "Linb"], "10102 10137-1013f"),
  (["Cyrl", "Glag"], "484 487 2e43 a66f"),
  (["Cyrl", "Grek", "Latn", "Perm"], "306"),
  (["Cyrl", "Latn"], "485-486"),
  (["Cyrl", "Latn", "Syrc"], "1df8"),
  (["Cyrl", "Latn", "Todr"], "311"),
  (["Cyrl", "Perm"], "483"),
  (["Deva"], "1cd1 1cd4 1cdb 1cde-1cdf 1ce2-1ce8 1ceb-1cec 1cee-1cf1"),
  (["Deva", "Dogr", "Gujr", "Guru", "Khoj", "Knda", "Kthi", "Mahj", "Mlym", "Modi", "Nand",
    "Shrd", "Sind", "Takr", "Tirh", "Tutg"],
    "a830-a832"),
  (["Deva", "Dogr", "Gujr", "Guru", "Khoj", "Knda", "Kthi", "Mahj", "Modi", "Nand", "Shrd",
    "Sind", "Takr", "Tirh", "Tutg"],
    "a833-a835"),
  (["Deva", "Dogr", "Gujr", "Guru", "Khoj", "Kthi", "Mahj", "Modi", "Shrd", "Sind", "Takr",
    "Tirh"],
    "a838"),
  (["Deva", "Dogr", "Gujr", "Guru", "Khoj", "Kthi", "Mahj", "Modi", "Sind", "Takr", "Tirh"],
    "a836-a837 a839"),
  (["Deva", "Dogr", "Kthi", "Mahj"], "966-96f"),
  (["Deva", "Gran"], "1cf3 1cf8-1cf9"),
  (["Deva", "Gran", "Knda"], "1cd3"),
  (["Deva", "Gran", "Knda", "Tutg"], "1cf4"),
  (["Deva", "Gran", "Latn"], "20f0"),
  (["Deva", "Knda", "Mlym", "Orya", "Taml", "Telu"], "1cda"),
  (["Deva", "Nand"], "1ce9"),
  (["Deva", "Shrd"], "1cd7 1cd9 1cdc-1cdd 1ce0"),
  (["Deva", "Taml"], "a8f3"),
  (["Dupl"], "2e3c 1bca0-1bca3"),
  (["Dupl", "Latn", "Syrc"], "30a"),
  (["Ethi", "Latn"], "30e"),
  (["Geor", "Glag", "Latn"], "10fb"),
  (["Glag", "Latn", "Sunu", "Syrc", "Thai"], "303"),
  (["Gran", "Taml"], "be6-bf3 11301 11303 1133b-1133c 11fd0-11fd1 11fd3"),
  (["Grek"], "342 345 1dc0-1dc1"),
  (["Grek", "Latn", "Perm", "Todr"], "313"),
  (["Gujr", "Khoj"], "ae6-aef"),
  (["Guru", "Mult"], "a66-a6f"),
  (["Hani"],
    "3006 303e-303f 3190-319f 31c0-31e5 3220-3247 3280-32b0 32c0-32cb 32ff 3358-3370 337b-337f 33e0-33fe 1d360-1d371 1f250-1f251"),
  (["Hani", "Hira", "Kana"], "303c-303d"),
  (["Hani", "Latn"], "a700-a707"),
  (["Hani", "Tang"], "2ff0-2fff 31ef"),
  (["Hira", "Kana"], "3031-3035 3099-309c 30a0 30fc ff70 ff9e-ff9f"),
  (["Kali", "Latn", "Mymr"], "a92e"),
  (["Knda", "Nand", "Tutg"], "ce6-cef"),
  (["Latn"], "363-36f"),
  (["Latn", "Lisu"], "2cd"),
  (["Latn", "Mong", "Phag"], "202f"),
  (["Latn", "Osge"], "358"),
  (["Latn", "Sunu"], "30d 310"),
  (["Latn", "Sunu", "Syrc"], "32d"),
  (["Latn", "Syrc"], "320 325 32e"),
  (["Latn", "Tfng"], "309"),
  (["Latn", "Thai"], "2d7"),
  (["Mani", "Ougr"], "10af2"),
  (["Mong", "Phag"], "1802-1803 1805"),
  (["Nand"], "1cfa"),
  (["Runr"], "16eb-16ed"),
  (["Syrc"], "1dfa")]

def extensions : List (List String × CodeSet) :=
  extensionTexts.map fun (scripts, text) => (scripts, CodeSet.ofTexts [text])

/-- The code points that a script uses. Where several scripts share one, its own does not count. -/
def users (script : String) : CodeSet :=
  let shared := CodeSet.unions (extensions.map (·.2))
  let ofScript := extensions.filter fun (scripts, _) => scripts.contains script
  (set script \ shared) ∪ CodeSet.unions (ofScript.map (·.2))

end Amalgam.Unicode.Script
