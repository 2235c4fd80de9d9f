import UsingCensus.Text.Letters

namespace UsingCensus.Xml

structure CodePage where
  names : List String
  upperHalf : String

private def cp1125 : CodePage :=
  ⟨["1125", "cp1125", "cp866u", "ibm1125", "ruscii"],
    "АБВГДЕЖЗИЙКЛМНОПРСТУФХЦЧШЩЪЫЬЭЮЯ" ++
      "абвгдежзийклмноп\u2591\u2592\u2593\u2502\u2524\u2561\u2562\u2556\u2555\u2563\u2551\u2557\u255D\u255C\u255B\u2510" ++
      "\u2514\u2534\u252C\u251C\u2500\u253C\u255E\u255F\u255A\u2554\u2569\u2566\u2560\u2550\u256C\u2567\u2568\u2564\u2565\u2559\u2558\u2552\u2553\u256B\u256A\u2518\u250C\u2588\u2584\u258C\u2590\u2580" ++
      "рстуфхцчшщъыьэюяЁёҐґЄєІіЇї\u00B7\u221A\u2116\u00A4\u25A0\u00A0"⟩

private def cp1250 : CodePage :=
  ⟨["1250", "cp1250", "windows_1250"],
    "\u20AC\uFFFD\u201A\uFFFD\u201E\u2026\u2020\u2021\uFFFD\u2030Š\u2039ŚŤŽŹ\uFFFD\u2018\u2019\u201C\u201D\u2022\u2013\u2014\uFFFD\u2122š\u203Aśťžź" ++
      "\u00A0ˇ\u02D8Ł\u00A4Ą\u00A6\u00A7\u00A8\u00A9Ş\u00AB\u00AC\u00AD\u00AEŻ\u00B0\u00B1\u02DBł\u00B4µ\u00B6\u00B7\u00B8ąş\u00BBĽ\u02DDľż" ++
      "ŔÁÂĂÄĹĆÇČÉĘËĚÍÎĎĐŃŇÓÔŐÖ\u00D7ŘŮÚŰÜÝŢß" ++
      "ŕáâăäĺćçčéęëěíîďđńňóôőö\u00F7řůúűüýţ\u02D9"⟩

private def cp1251 : CodePage :=
  ⟨["1251", "cp1251", "windows_1251"],
    "ЂЃ\u201Aѓ\u201E\u2026\u2020\u2021\u20AC\u2030Љ\u2039ЊЌЋЏђ\u2018\u2019\u201C\u201D\u2022\u2013\u2014\uFFFD\u2122љ\u203Aњќћџ" ++
      "\u00A0ЎўЈ\u00A4Ґ\u00A6\u00A7Ё\u00A9Є\u00AB\u00AC\u00AD\u00AEЇ\u00B0\u00B1Ііґµ\u00B6\u00B7ё\u2116є\u00BBјЅѕї" ++
      "АБВГДЕЖЗИЙКЛМНОПРСТУФХЦЧШЩЪЫЬЭЮЯ" ++
      "абвгдежзийклмнопрстуфхцчшщъыьэюя"⟩

private def cp1252 : CodePage :=
  ⟨["1252", "cp1252", "windows_1252"],
    "\u20AC\uFFFD\u201Aƒ\u201E\u2026\u2020\u2021ˆ\u2030Š\u2039Œ\uFFFDŽ\uFFFD\uFFFD\u2018\u2019\u201C\u201D\u2022\u2013\u2014\u02DC\u2122š\u203Aœ\uFFFDžŸ" ++
      "\u00A0\u00A1\u00A2\u00A3\u00A4\u00A5\u00A6\u00A7\u00A8\u00A9ª\u00AB\u00AC\u00AD\u00AE\u00AF\u00B0\u00B1²³\u00B4µ\u00B6\u00B7\u00B8¹º\u00BB¼½¾\u00BF" ++
      "ÀÁÂÃÄÅÆÇÈÉÊËÌÍÎÏÐÑÒÓÔÕÖ\u00D7ØÙÚÛÜÝÞß" ++
      "àáâãäåæçèéêëìíîïðñòóôõö\u00F7øùúûüýþÿ"⟩

private def cp1253 : CodePage :=
  ⟨["1253", "cp1253", "windows_1253"],
    "\u20AC\uFFFD\u201Aƒ\u201E\u2026\u2020\u2021\uFFFD\u2030\uFFFD\u2039\uFFFD\uFFFD\uFFFD\uFFFD\uFFFD\u2018\u2019\u201C\u201D\u2022\u2013\u2014\uFFFD\u2122\uFFFD\u203A\uFFFD\uFFFD\uFFFD\uFFFD" ++
      "\u00A0\u0385Ά\u00A3\u00A4\u00A5\u00A6\u00A7\u00A8\u00A9\uFFFD\u00AB\u00AC\u00AD\u00AE\u2015\u00B0\u00B1²³\u0384µ\u00B6\u00B7ΈΉΊ\u00BBΌ½ΎΏ" ++
      "ΐΑΒΓΔΕΖΗΘΙΚΛΜΝΞΟΠΡ\uFFFDΣΤΥΦΧΨΩΪΫάέήί" ++
      "ΰαβγδεζηθικλμνξοπρςστυφχψωϊϋόύώ\uFFFD"⟩

private def cp1254 : CodePage :=
  ⟨["1254", "cp1254", "windows_1254"],
    "\u20AC\uFFFD\u201Aƒ\u201E\u2026\u2020\u2021ˆ\u2030Š\u2039Œ\uFFFD\uFFFD\uFFFD\uFFFD\u2018\u2019\u201C\u201D\u2022\u2013\u2014\u02DC\u2122š\u203Aœ\uFFFD\uFFFDŸ" ++
      "\u00A0\u00A1\u00A2\u00A3\u00A4\u00A5\u00A6\u00A7\u00A8\u00A9ª\u00AB\u00AC\u00AD\u00AE\u00AF\u00B0\u00B1²³\u00B4µ\u00B6\u00B7\u00B8¹º\u00BB¼½¾\u00BF" ++
      "ÀÁÂÃÄÅÆÇÈÉÊËÌÍÎÏĞÑÒÓÔÕÖ\u00D7ØÙÚÛÜİŞß" ++
      "àáâãäåæçèéêëìíîïğñòóôõö\u00F7øùúûüışÿ"⟩

private def cp1255 : CodePage :=
  ⟨["1255", "cp1255", "windows_1255"],
    "\u20AC\uFFFD\u201Aƒ\u201E\u2026\u2020\u2021ˆ\u2030\uFFFD\u2039\uFFFD\uFFFD\uFFFD\uFFFD\uFFFD\u2018\u2019\u201C\u201D\u2022\u2013\u2014\u02DC\u2122\uFFFD\u203A\uFFFD\uFFFD\uFFFD\uFFFD" ++
      "\u00A0\u00A1\u00A2\u00A3\u20AA\u00A5\u00A6\u00A7\u00A8\u00A9\u00D7\u00AB\u00AC\u00AD\u00AE\u00AF\u00B0\u00B1²³\u00B4µ\u00B6\u00B7\u00B8¹\u00F7\u00BB¼½¾\u00BF" ++
      "\u05B0\u05B1\u05B2\u05B3\u05B4\u05B5\u05B6\u05B7\u05B8\u05B9\uFFFD\u05BB\u05BC\u05BD\u05BE\u05BF\u05C0\u05C1\u05C2\u05C3\u05F0\u05F1\u05F2\u05F3\u05F4\uFFFD\uFFFD\uFFFD\uFFFD\uFFFD\uFFFD\uFFFD" ++
      "\u05D0\u05D1\u05D2\u05D3\u05D4\u05D5\u05D6\u05D7\u05D8\u05D9\u05DA\u05DB\u05DC\u05DD\u05DE\u05DF\u05E0\u05E1\u05E2\u05E3\u05E4\u05E5\u05E6\u05E7\u05E8\u05E9\u05EA\uFFFD\uFFFD\u200E\u200F\uFFFD"⟩

private def cp1256 : CodePage :=
  ⟨["1256", "cp1256", "windows_1256"],
    "\u20AC\u067E\u201Aƒ\u201E\u2026\u2020\u2021ˆ\u2030\u0679\u2039Œ\u0686\u0698\u0688\u06AF\u2018\u2019\u201C\u201D\u2022\u2013\u2014\u06A9\u2122\u0691\u203Aœ\u200C\u200D\u06BA" ++
      "\u00A0\u060C\u00A2\u00A3\u00A4\u00A5\u00A6\u00A7\u00A8\u00A9\u06BE\u00AB\u00AC\u00AD\u00AE\u00AF\u00B0\u00B1²³\u00B4µ\u00B6\u00B7\u00B8¹\u061B\u00BB¼½¾\u061F" ++
      "\u06C1\u0621\u0622\u0623\u0624\u0625\u0626\u0627\u0628\u0629\u062A\u062B\u062C\u062D\u062E\u062F\u0630\u0631\u0632\u0633\u0634\u0635\u0636\u00D7\u0637\u0638\u0639\u063A\u0640\u0641\u0642\u0643" ++
      "à\u0644â\u0645\u0646\u0647\u0648çèéêë\u0649\u064Aîï\u064B\u064C\u064D\u064Eô\u064F\u0650\u00F7\u0651ù\u0652ûü\u200E\u200F\u06D2"⟩

private def cp1257 : CodePage :=
  ⟨["1257", "cp1257", "windows_1257"],
    "\u20AC\uFFFD\u201A\uFFFD\u201E\u2026\u2020\u2021\uFFFD\u2030\uFFFD\u2039\uFFFD\u00A8ˇ\u00B8\uFFFD\u2018\u2019\u201C\u201D\u2022\u2013\u2014\uFFFD\u2122\uFFFD\u203A\uFFFD\u00AF\u02DB\uFFFD" ++
      "\u00A0\uFFFD\u00A2\u00A3\u00A4\uFFFD\u00A6\u00A7Ø\u00A9Ŗ\u00AB\u00AC\u00AD\u00AEÆ\u00B0\u00B1²³\u00B4µ\u00B6\u00B7ø¹ŗ\u00BB¼½¾æ" ++
      "ĄĮĀĆÄÅĘĒČÉŹĖĢĶĪĻŠŃŅÓŌÕÖ\u00D7ŲŁŚŪÜŻŽß" ++
      "ąįāćäåęēčéźėģķīļšńņóōõö\u00F7ųłśūüżž\u02D9"⟩

private def cp1258 : CodePage :=
  ⟨["1258", "cp1258", "windows_1258"],
    "\u20AC\uFFFD\u201Aƒ\u201E\u2026\u2020\u2021ˆ\u2030\uFFFD\u2039Œ\uFFFD\uFFFD\uFFFD\uFFFD\u2018\u2019\u201C\u201D\u2022\u2013\u2014\u02DC\u2122\uFFFD\u203Aœ\uFFFD\uFFFDŸ" ++
      "\u00A0\u00A1\u00A2\u00A3\u00A4\u00A5\u00A6\u00A7\u00A8\u00A9ª\u00AB\u00AC\u00AD\u00AE\u00AF\u00B0\u00B1²³\u00B4µ\u00B6\u00B7\u00B8¹º\u00BB¼½¾\u00BF" ++
      "ÀÁÂĂÄÅÆÇÈÉÊË\u0300ÍÎÏĐÑ\u0309ÓÔƠÖ\u00D7ØÙÚÛÜƯ\u0303ß" ++
      "àáâăäåæçèéêë\u0301íîïđñ\u0323óôơö\u00F7øùúûüư\u20ABÿ"⟩

private def cp437 : CodePage :=
  ⟨["437", "cp437", "cspc8codepage437", "ibm437"],
    "ÇüéâäàåçêëèïîìÄÅÉæÆôöòûùÿÖÜ\u00A2\u00A3\u00A5\u20A7ƒ" ++
      "áíóúñÑªº\u00BF\u2310\u00AC½¼\u00A1\u00AB\u00BB\u2591\u2592\u2593\u2502\u2524\u2561\u2562\u2556\u2555\u2563\u2551\u2557\u255D\u255C\u255B\u2510" ++
      "\u2514\u2534\u252C\u251C\u2500\u253C\u255E\u255F\u255A\u2554\u2569\u2566\u2560\u2550\u256C\u2567\u2568\u2564\u2565\u2559\u2558\u2552\u2553\u256B\u256A\u2518\u250C\u2588\u2584\u258C\u2590\u2580" ++
      "αßΓπΣσµτΦΘΩδ\u221Eφε\u2229\u2261\u00B1\u2265\u2264\u2320\u2321\u00F7\u2248\u00B0\u2219\u00B7\u221A\u207F²\u25A0\u00A0"⟩

private def ascii : CodePage :=
  ⟨["646", "ansi_x3.4_1968", "ansi_x3.4_1986", "ansi_x3_4_1968", "ascii", "cp367", "cp65001",
    "csascii", "csiso2022jp", "ibm367", "iso2022_jp", "iso2022_jp_1", "iso2022_jp_2",
    "iso2022_jp_2004", "iso2022_jp_3", "iso2022_jp_ext", "iso2022jp", "iso2022jp_1",
    "iso2022jp_2", "iso2022jp_2004", "iso2022jp_3", "iso2022jp_ext", "iso646_us", "iso_2022_jp",
    "iso_2022_jp_1", "iso_2022_jp_2", "iso_2022_jp_2004", "iso_2022_jp_3", "iso_2022_jp_ext",
    "iso_646.irv_1991", "iso_ir_6", "u8", "us", "us_ascii", "utf", "utf8",
    "utf8_ucs2", "utf8_ucs4", "utf_8", "utf_8_sig"],
    String.ofList (List.replicate 128 '\uFFFD')⟩

private def cp775 : CodePage :=
  ⟨["775", "cp775", "cspc775baltic", "ibm775"],
    "ĆüéāäģåćłēŖŗīŹÄÅÉæÆōöĢ\u00A2ŚśÖÜø\u00A3Ø\u00D7\u00A4" ++
      "ĀĪóŻżź\u201D\u00A6\u00A9\u00AE\u00AC½¼Ł\u00AB\u00BB\u2591\u2592\u2593\u2502\u2524ĄČĘĖ\u2563\u2551\u2557\u255DĮŠ\u2510" ++
      "\u2514\u2534\u252C\u251C\u2500\u253CŲŪ\u255A\u2554\u2569\u2566\u2560\u2550\u256CŽąčęėįšųūž\u2518\u250C\u2588\u2584\u258C\u2590\u2580" ++
      "ÓßŌŃõÕµńĶķĻļņĒŅ\u2019\u00AD\u00B1\u201C¾\u00B6\u00A7\u00F7\u201E\u00B0\u2219\u00B7¹³²\u25A0\u00A0"⟩

private def cp850 : CodePage :=
  ⟨["850", "cp850", "cspc850multilingual", "ibm850"],
    "ÇüéâäàåçêëèïîìÄÅÉæÆôöòûùÿÖÜø\u00A3Ø\u00D7ƒ" ++
      "áíóúñÑªº\u00BF\u00AE\u00AC½¼\u00A1\u00AB\u00BB\u2591\u2592\u2593\u2502\u2524ÁÂÀ\u00A9\u2563\u2551\u2557\u255D\u00A2\u00A5\u2510" ++
      "\u2514\u2534\u252C\u251C\u2500\u253CãÃ\u255A\u2554\u2569\u2566\u2560\u2550\u256C\u00A4ðÐÊËÈıÍÎÏ\u2518\u250C\u2588\u2584\u00A6Ì\u2580" ++
      "ÓßÔÒõÕµþÞÚÛÙýÝ\u00AF\u00B4\u00AD\u00B1\u2017¾\u00B6\u00A7\u00F7\u00B8\u00B0\u00A8\u00B7¹³²\u25A0\u00A0"⟩

private def cp852 : CodePage :=
  ⟨["852", "cp852", "cspcp852", "ibm852"],
    "ÇüéâäůćçłëŐőîŹÄĆÉĹĺôöĽľŚśÖÜŤťŁ\u00D7č" ++
      "áíóúĄąŽžĘę\u00ACźČş\u00AB\u00BB\u2591\u2592\u2593\u2502\u2524ÁÂĚŞ\u2563\u2551\u2557\u255DŻż\u2510" ++
      "\u2514\u2534\u252C\u251C\u2500\u253CĂă\u255A\u2554\u2569\u2566\u2560\u2550\u256C\u00A4đĐĎËďŇÍÎě\u2518\u250C\u2588\u2584ŢŮ\u2580" ++
      "ÓßÔŃńňŠšŔÚŕŰýÝţ\u00B4\u00AD\u02DD\u02DBˇ\u02D8\u00A7\u00F7\u00B8\u00B0\u00A8\u02D9űŘř\u25A0\u00A0"⟩

private def cp855 : CodePage :=
  ⟨["855", "cp855", "csibm855", "ibm855"],
    "ђЂѓЃёЁєЄѕЅіІїЇјЈљЉњЊћЋќЌўЎџЏюЮъЪ" ++
      "аАбБцЦдДеЕфФгГ\u00AB\u00BB\u2591\u2592\u2593\u2502\u2524хХиИ\u2563\u2551\u2557\u255DйЙ\u2510" ++
      "\u2514\u2534\u252C\u251C\u2500\u253CкК\u255A\u2554\u2569\u2566\u2560\u2550\u256C\u00A4лЛмМнНоОп\u2518\u250C\u2588\u2584Пя\u2580" ++
      "ЯрРсСтТуУжЖвВьЬ\u2116\u00ADыЫзЗшШэЭщЩчЧ\u00A7\u25A0\u00A0"⟩

private def cp857 : CodePage :=
  ⟨["857", "cp857", "csibm857", "ibm857"],
    "ÇüéâäàåçêëèïîıÄÅÉæÆôöòûùİÖÜø\u00A3ØŞş" ++
      "áíóúñÑĞğ\u00BF\u00AE\u00AC½¼\u00A1\u00AB\u00BB\u2591\u2592\u2593\u2502\u2524ÁÂÀ\u00A9\u2563\u2551\u2557\u255D\u00A2\u00A5\u2510" ++
      "\u2514\u2534\u252C\u251C\u2500\u253CãÃ\u255A\u2554\u2569\u2566\u2560\u2550\u256C\u00A4ºªÊËÈ\uFFFDÍÎÏ\u2518\u250C\u2588\u2584\u00A6Ì\u2580" ++
      "ÓßÔÒõÕµ\uFFFD\u00D7ÚÛÙìÿ\u00AF\u00B4\u00AD\u00B1\uFFFD¾\u00B6\u00A7\u00F7\u00B8\u00B0\u00A8\u00B7¹³²\u25A0\u00A0"⟩

private def cp858 : CodePage :=
  ⟨["858", "cp858", "csibm858", "ibm858"],
    "ÇüéâäàåçêëèïîìÄÅÉæÆôöòûùÿÖÜø\u00A3Ø\u00D7ƒ" ++
      "áíóúñÑªº\u00BF\u00AE\u00AC½¼\u00A1\u00AB\u00BB\u2591\u2592\u2593\u2502\u2524ÁÂÀ\u00A9\u2563\u2551\u2557\u255D\u00A2\u00A5\u2510" ++
      "\u2514\u2534\u252C\u251C\u2500\u253CãÃ\u255A\u2554\u2569\u2566\u2560\u2550\u256C\u00A4ðÐÊËÈ\u20ACÍÎÏ\u2518\u250C\u2588\u2584\u00A6Ì\u2580" ++
      "ÓßÔÒõÕµþÞÚÛÙýÝ\u00AF\u00B4\u00AD\u00B1\u2017¾\u00B6\u00A7\u00F7\u00B8\u00B0\u00A8\u00B7¹³²\u25A0\u00A0"⟩

private def cp860 : CodePage :=
  ⟨["860", "cp860", "csibm860", "ibm860"],
    "ÇüéâãàÁçêÊèÍÔìÃÂÉÀÈôõòÚùÌÕÜ\u00A2\u00A3Ù\u20A7Ó" ++
      "áíóúñÑªº\u00BFÒ\u00AC½¼\u00A1\u00AB\u00BB\u2591\u2592\u2593\u2502\u2524\u2561\u2562\u2556\u2555\u2563\u2551\u2557\u255D\u255C\u255B\u2510" ++
      "\u2514\u2534\u252C\u251C\u2500\u253C\u255E\u255F\u255A\u2554\u2569\u2566\u2560\u2550\u256C\u2567\u2568\u2564\u2565\u2559\u2558\u2552\u2553\u256B\u256A\u2518\u250C\u2588\u2584\u258C\u2590\u2580" ++
      "αßΓπΣσµτΦΘΩδ\u221Eφε\u2229\u2261\u00B1\u2265\u2264\u2320\u2321\u00F7\u2248\u00B0\u2219\u00B7\u221A\u207F²\u25A0\u00A0"⟩

private def cp861 : CodePage :=
  ⟨["861", "cp861", "cp_is", "csibm861", "ibm861"],
    "ÇüéâäàåçêëèÐðÞÄÅÉæÆôöþûÝýÖÜø\u00A3Ø\u20A7ƒ" ++
      "áíóúÁÍÓÚ\u00BF\u2310\u00AC½¼\u00A1\u00AB\u00BB\u2591\u2592\u2593\u2502\u2524\u2561\u2562\u2556\u2555\u2563\u2551\u2557\u255D\u255C\u255B\u2510" ++
      "\u2514\u2534\u252C\u251C\u2500\u253C\u255E\u255F\u255A\u2554\u2569\u2566\u2560\u2550\u256C\u2567\u2568\u2564\u2565\u2559\u2558\u2552\u2553\u256B\u256A\u2518\u250C\u2588\u2584\u258C\u2590\u2580" ++
      "αßΓπΣσµτΦΘΩδ\u221Eφε\u2229\u2261\u00B1\u2265\u2264\u2320\u2321\u00F7\u2248\u00B0\u2219\u00B7\u221A\u207F²\u25A0\u00A0"⟩

private def cp862 : CodePage :=
  ⟨["862", "cp862", "cspc862latinhebrew", "ibm862"],
    "\u05D0\u05D1\u05D2\u05D3\u05D4\u05D5\u05D6\u05D7\u05D8\u05D9\u05DA\u05DB\u05DC\u05DD\u05DE\u05DF\u05E0\u05E1\u05E2\u05E3\u05E4\u05E5\u05E6\u05E7\u05E8\u05E9\u05EA\u00A2\u00A3\u00A5\u20A7ƒ" ++
      "áíóúñÑªº\u00BF\u2310\u00AC½¼\u00A1\u00AB\u00BB\u2591\u2592\u2593\u2502\u2524\u2561\u2562\u2556\u2555\u2563\u2551\u2557\u255D\u255C\u255B\u2510" ++
      "\u2514\u2534\u252C\u251C\u2500\u253C\u255E\u255F\u255A\u2554\u2569\u2566\u2560\u2550\u256C\u2567\u2568\u2564\u2565\u2559\u2558\u2552\u2553\u256B\u256A\u2518\u250C\u2588\u2584\u258C\u2590\u2580" ++
      "αßΓπΣσµτΦΘΩδ\u221Eφε\u2229\u2261\u00B1\u2265\u2264\u2320\u2321\u00F7\u2248\u00B0\u2219\u00B7\u221A\u207F²\u25A0\u00A0"⟩

private def cp863 : CodePage :=
  ⟨["863", "cp863", "csibm863", "ibm863"],
    "ÇüéâÂà\u00B6çêëèïî\u2017À\u00A7ÉÈÊôËÏûù\u00A4ÔÜ\u00A2\u00A3ÙÛƒ" ++
      "\u00A6\u00B4óú\u00A8\u00B8³\u00AFÎ\u2310\u00AC½¼¾\u00AB\u00BB\u2591\u2592\u2593\u2502\u2524\u2561\u2562\u2556\u2555\u2563\u2551\u2557\u255D\u255C\u255B\u2510" ++
      "\u2514\u2534\u252C\u251C\u2500\u253C\u255E\u255F\u255A\u2554\u2569\u2566\u2560\u2550\u256C\u2567\u2568\u2564\u2565\u2559\u2558\u2552\u2553\u256B\u256A\u2518\u250C\u2588\u2584\u258C\u2590\u2580" ++
      "αßΓπΣσµτΦΘΩδ\u221Eφε\u2229\u2261\u00B1\u2265\u2264\u2320\u2321\u00F7\u2248\u00B0\u2219\u00B7\u221A\u207F²\u25A0\u00A0"⟩

private def cp865 : CodePage :=
  ⟨["865", "cp865", "csibm865", "ibm865"],
    "ÇüéâäàåçêëèïîìÄÅÉæÆôöòûùÿÖÜø\u00A3Ø\u20A7ƒ" ++
      "áíóúñÑªº\u00BF\u2310\u00AC½¼\u00A1\u00AB\u00A4\u2591\u2592\u2593\u2502\u2524\u2561\u2562\u2556\u2555\u2563\u2551\u2557\u255D\u255C\u255B\u2510" ++
      "\u2514\u2534\u252C\u251C\u2500\u253C\u255E\u255F\u255A\u2554\u2569\u2566\u2560\u2550\u256C\u2567\u2568\u2564\u2565\u2559\u2558\u2552\u2553\u256B\u256A\u2518\u250C\u2588\u2584\u258C\u2590\u2580" ++
      "αßΓπΣσµτΦΘΩδ\u221Eφε\u2229\u2261\u00B1\u2265\u2264\u2320\u2321\u00F7\u2248\u00B0\u2219\u00B7\u221A\u207F²\u25A0\u00A0"⟩

private def cp866 : CodePage :=
  ⟨["866", "cp866", "csibm866", "ibm866"],
    "АБВГДЕЖЗИЙКЛМНОПРСТУФХЦЧШЩЪЫЬЭЮЯ" ++
      "абвгдежзийклмноп\u2591\u2592\u2593\u2502\u2524\u2561\u2562\u2556\u2555\u2563\u2551\u2557\u255D\u255C\u255B\u2510" ++
      "\u2514\u2534\u252C\u251C\u2500\u253C\u255E\u255F\u255A\u2554\u2569\u2566\u2560\u2550\u256C\u2567\u2568\u2564\u2565\u2559\u2558\u2552\u2553\u256B\u256A\u2518\u250C\u2588\u2584\u258C\u2590\u2580" ++
      "рстуфхцчшщъыьэюяЁёЄєЇїЎў\u00B0\u2219\u00B7\u221A\u2116\u00A4\u25A0\u00A0"⟩

private def cp869 : CodePage :=
  ⟨["869", "cp869", "cp_gr", "csibm869", "ibm869"],
    "\uFFFD\uFFFD\uFFFD\uFFFD\uFFFD\uFFFDΆ\uFFFD\u00B7\u00AC\u00A6\u2018\u2019Έ\u2015ΉΊΪΌ\uFFFD\uFFFDΎΫ\u00A9Ώ²³ά\u00A3έήί" ++
      "ϊΐόύΑΒΓΔΕΖΗ½ΘΙ\u00AB\u00BB\u2591\u2592\u2593\u2502\u2524ΚΛΜΝ\u2563\u2551\u2557\u255DΞΟ\u2510" ++
      "\u2514\u2534\u252C\u251C\u2500\u253CΠΡ\u255A\u2554\u2569\u2566\u2560\u2550\u256CΣΤΥΦΧΨΩαβγ\u2518\u250C\u2588\u2584δε\u2580" ++
      "ζηθικλμνξοπρσςτ\u0384\u00AD\u00B1υφχ\u00A7ψ\u0385\u00B0\u00A8ωϋΰώ\u25A0\u00A0"⟩

private def cp819 : CodePage :=
  ⟨["8859", "charmap", "cp819", "csisolatin1", "ibm819", "iso8859", "iso8859_1", "iso_8859_1",
    "iso_8859_1_1987", "iso_ir_100", "l1", "latin", "latin1", "latin_1", "raw_unicode_escape",
    "unicode_escape"],
    String.ofList ((List.range 128).map fun offset => Char.ofNat (128 + offset))⟩

private def iso88596 : CodePage :=
  ⟨["arabic", "asmo_708", "csisolatinarabic", "ecma_114", "iso8859_6", "iso_8859_6",
    "iso_8859_6_1987", "iso_ir_127"],
    "\u0080\u0081\u0082\u0083\u0084\u0085\u0086\u0087\u0088\u0089\u008A\u008B\u008C\u008D\u008E\u008F\u0090\u0091\u0092\u0093\u0094\u0095\u0096\u0097\u0098\u0099\u009A\u009B\u009C\u009D\u009E\u009F" ++
      "\u00A0\uFFFD\uFFFD\uFFFD\u00A4\uFFFD\uFFFD\uFFFD\uFFFD\uFFFD\uFFFD\uFFFD\u060C\u00AD\uFFFD\uFFFD\uFFFD\uFFFD\uFFFD\uFFFD\uFFFD\uFFFD\uFFFD\uFFFD\uFFFD\uFFFD\uFFFD\u061B\uFFFD\uFFFD\uFFFD\u061F" ++
      "\uFFFD\u0621\u0622\u0623\u0624\u0625\u0626\u0627\u0628\u0629\u062A\u062B\u062C\u062D\u062E\u062F\u0630\u0631\u0632\u0633\u0634\u0635\u0636\u0637\u0638\u0639\u063A\uFFFD\uFFFD\uFFFD\uFFFD\uFFFD" ++
      "\u0640\u0641\u0642\u0643\u0644\u0645\u0646\u0647\u0648\u0649\u064A\u064B\u064C\u064D\u064E\u064F\u0650\u0651\u0652\uFFFD\uFFFD\uFFFD\uFFFD\uFFFD\uFFFD\uFFFD\uFFFD\uFFFD\uFFFD\uFFFD\uFFFD\uFFFD"⟩

private def cp1006 : CodePage :=
  ⟨["cp1006"],
    "\u0080\u0081\u0082\u0083\u0084\u0085\u0086\u0087\u0088\u0089\u008A\u008B\u008C\u008D\u008E\u008F\u0090\u0091\u0092\u0093\u0094\u0095\u0096\u0097\u0098\u0099\u009A\u009B\u009C\u009D\u009E\u009F" ++
      "\u00A0\u06F0\u06F1\u06F2\u06F3\u06F4\u06F5\u06F6\u06F7\u06F8\u06F9\u060C\u061B\u00AD\u061F\uFE81\uFE8D\uFE8E\uFE8E\uFE8F\uFE91\uFB56\uFB58\uFE93\uFE95\uFE97\uFB66\uFB68\uFE99\uFE9B\uFE9D\uFE9F" ++
      "\uFB7A\uFB7C\uFEA1\uFEA3\uFEA5\uFEA7\uFEA9\uFB84\uFEAB\uFEAD\uFB8C\uFEAF\uFB8A\uFEB1\uFEB3\uFEB5\uFEB7\uFEB9\uFEBB\uFEBD\uFEBF\uFEC1\uFEC5\uFEC9\uFECA\uFECB\uFECC\uFECD\uFECE\uFECF\uFED0\uFED1" ++
      "\uFED3\uFED5\uFED7\uFED9\uFEDB\uFB92\uFB94\uFEDD\uFEDF\uFEE0\uFEE1\uFEE3\uFB9E\uFEE5\uFEE7\uFE85\uFEED\uFBA6\uFBA8\uFBA9\uFBAA\uFE80\uFE89\uFE8A\uFE8B\uFEF1\uFEF2\uFEF3\uFBB0\uFBAE\uFE7C\uFE7D"⟩

private def cp1051 : CodePage :=
  ⟨["cp1051", "hp_roman8", "ibm1051", "r8", "roman8"],
    "\u0080\u0081\u0082\u0083\u0084\u0085\u0086\u0087\u0088\u0089\u008A\u008B\u008C\u008D\u008E\u008F\u0090\u0091\u0092\u0093\u0094\u0095\u0096\u0097\u0098\u0099\u009A\u009B\u009C\u009D\u009E\u009F" ++
      "\u00A0ÀÂÈÊËÎÏ\u00B4ˋˆ\u00A8\u02DCÙÛ\u20A4\u00AFÝý\u00B0ÇçÑñ\u00A1\u00BF\u00A4\u00A3\u00A5\u00A7ƒ\u00A2" ++
      "âêôûáéóúàèòùäëöüÅîØÆåíøæÄìÖÜÉïßÔ" ++
      "ÁÃãÐðÍÌÓÒÕõŠšÚŸÿÞþ\u00B7µ\u00B6¾\u2014¼½ªº\u00AB\u25A0\u00BB\u00B1\uFFFD"⟩

private def cp154 : CodePage :=
  ⟨["cp154", "csptcp154", "cyrillic_asian", "pt154", "ptcp154"],
    "ҖҒӮғ\u201E\u2026ҶҮҲүҠӢҢҚҺҸҗ\u2018\u2019\u201C\u201D\u2022\u2013\u2014ҳҷҡӣңқһҹ" ++
      "\u00A0ЎўЈӨҘҰ\u00A7Ё\u00A9Ә\u00AB\u00ACӯ\u00AEҜ\u00B0ұІіҙө\u00B6\u00B7ё\u2116ә\u00BBјҪҫҝ" ++
      "АБВГДЕЖЗИЙКЛМНОПРСТУФХЦЧШЩЪЫЬЭЮЯ" ++
      "абвгдежзийклмнопрстуфхцчшщъыьэюя"⟩

private def cp720 : CodePage :=
  ⟨["cp720"],
    "\u0080\u0081éâ\u0084à\u0086çêëèïî\u008D\u008E\u008F\u0090\u0651\u0652ô\u00A4\u0640ûù\u0621\u0622\u0623\u0624\u00A3\u0625\u0626\u0627" ++
      "\u0628\u0629\u062A\u062B\u062C\u062D\u062E\u062F\u0630\u0631\u0632\u0633\u0634\u0635\u00AB\u00BB\u2591\u2592\u2593\u2502\u2524\u2561\u2562\u2556\u2555\u2563\u2551\u2557\u255D\u255C\u255B\u2510" ++
      "\u2514\u2534\u252C\u251C\u2500\u253C\u255E\u255F\u255A\u2554\u2569\u2566\u2560\u2550\u256C\u2567\u2568\u2564\u2565\u2559\u2558\u2552\u2553\u256B\u256A\u2518\u250C\u2588\u2584\u258C\u2590\u2580" ++
      "\u0636\u0637\u0638\u0639\u063A\u0641µ\u0642\u0643\u0644\u0645\u0646\u0647\u0648\u0649\u064A\u2261\u064B\u064C\u064D\u064E\u064F\u0650\u2248\u00B0\u2219\u00B7\u221A\u207F²\u25A0\u00A0"⟩

private def cp737 : CodePage :=
  ⟨["cp737"],
    "ΑΒΓΔΕΖΗΘΙΚΛΜΝΞΟΠΡΣΤΥΦΧΨΩαβγδεζηθ" ++
      "ικλμνξοπρσςτυφχψ\u2591\u2592\u2593\u2502\u2524\u2561\u2562\u2556\u2555\u2563\u2551\u2557\u255D\u255C\u255B\u2510" ++
      "\u2514\u2534\u252C\u251C\u2500\u253C\u255E\u255F\u255A\u2554\u2569\u2566\u2560\u2550\u256C\u2567\u2568\u2564\u2565\u2559\u2558\u2552\u2553\u256B\u256A\u2518\u250C\u2588\u2584\u258C\u2590\u2580" ++
      "ωάέήϊίόύϋώΆΈΉΊΌΎΏ\u00B1\u2265\u2264ΪΫ\u00F7\u2248\u00B0\u2219\u00B7\u221A\u207F²\u25A0\u00A0"⟩

private def cp856 : CodePage :=
  ⟨["cp856"],
    "\u05D0\u05D1\u05D2\u05D3\u05D4\u05D5\u05D6\u05D7\u05D8\u05D9\u05DA\u05DB\u05DC\u05DD\u05DE\u05DF\u05E0\u05E1\u05E2\u05E3\u05E4\u05E5\u05E6\u05E7\u05E8\u05E9\u05EA\uFFFD\u00A3\uFFFD\u00D7\uFFFD" ++
      "\uFFFD\uFFFD\uFFFD\uFFFD\uFFFD\uFFFD\uFFFD\uFFFD\uFFFD\u00AE\u00AC½¼\uFFFD\u00AB\u00BB\u2591\u2592\u2593\u2502\u2524\uFFFD\uFFFD\uFFFD\u00A9\u2563\u2551\u2557\u255D\u00A2\u00A5\u2510" ++
      "\u2514\u2534\u252C\u251C\u2500\u253C\uFFFD\uFFFD\u255A\u2554\u2569\u2566\u2560\u2550\u256C\u00A4\uFFFD\uFFFD\uFFFD\uFFFD\uFFFD\uFFFD\uFFFD\uFFFD\uFFFD\u2518\u250C\u2588\u2584\u00A6\uFFFD\u2580" ++
      "\uFFFD\uFFFD\uFFFD\uFFFD\uFFFD\uFFFDµ\uFFFD\uFFFD\uFFFD\uFFFD\uFFFD\uFFFD\uFFFD\u00AF\u00B4\u00AD\u00B1\u2017¾\u00B6\u00A7\u00F7\u00B8\u00B0\u00A8\u00B7¹³²\u25A0\u00A0"⟩

private def cp874 : CodePage :=
  ⟨["cp874"],
    "\u20AC\uFFFD\uFFFD\uFFFD\uFFFD\u2026\uFFFD\uFFFD\uFFFD\uFFFD\uFFFD\uFFFD\uFFFD\uFFFD\uFFFD\uFFFD\uFFFD\u2018\u2019\u201C\u201D\u2022\u2013\u2014\uFFFD\uFFFD\uFFFD\uFFFD\uFFFD\uFFFD\uFFFD\uFFFD" ++
      "\u00A0\u0E01\u0E02\u0E03\u0E04\u0E05\u0E06\u0E07\u0E08\u0E09\u0E0A\u0E0B\u0E0C\u0E0D\u0E0E\u0E0F\u0E10\u0E11\u0E12\u0E13\u0E14\u0E15\u0E16\u0E17\u0E18\u0E19\u0E1A\u0E1B\u0E1C\u0E1D\u0E1E\u0E1F" ++
      "\u0E20\u0E21\u0E22\u0E23\u0E24\u0E25\u0E26\u0E27\u0E28\u0E29\u0E2A\u0E2B\u0E2C\u0E2D\u0E2E\u0E2F\u0E30\u0E31\u0E32\u0E33\u0E34\u0E35\u0E36\u0E37\u0E38\u0E39\u0E3A\uFFFD\uFFFD\uFFFD\uFFFD\u0E3F" ++
      "\u0E40\u0E41\u0E42\u0E43\u0E44\u0E45\u0E46\u0E47\u0E48\u0E49\u0E4A\u0E4B\u0E4C\u0E4D\u0E4E\u0E4F\u0E50\u0E51\u0E52\u0E53\u0E54\u0E55\u0E56\u0E57\u0E58\u0E59\u0E5A\u0E5B\uFFFD\uFFFD\uFFFD\uFFFD"⟩

private def iso88592 : CodePage :=
  ⟨["csisolatin2", "iso8859_2", "iso_8859_2", "iso_8859_2_1987", "iso_ir_101", "l2", "latin2"],
    "\u0080\u0081\u0082\u0083\u0084\u0085\u0086\u0087\u0088\u0089\u008A\u008B\u008C\u008D\u008E\u008F\u0090\u0091\u0092\u0093\u0094\u0095\u0096\u0097\u0098\u0099\u009A\u009B\u009C\u009D\u009E\u009F" ++
      "\u00A0Ą\u02D8Ł\u00A4ĽŚ\u00A7\u00A8ŠŞŤŹ\u00ADŽŻ\u00B0ą\u02DBł\u00B4ľśˇ\u00B8šşťź\u02DDžż" ++
      "ŔÁÂĂÄĹĆÇČÉĘËĚÍÎĎĐŃŇÓÔŐÖ\u00D7ŘŮÚŰÜÝŢß" ++
      "ŕáâăäĺćçčéęëěíîďđńňóôőö\u00F7řůúűüýţ\u02D9"⟩

private def iso88593 : CodePage :=
  ⟨["csisolatin3", "iso8859_3", "iso_8859_3", "iso_8859_3_1988", "iso_ir_109", "l3", "latin3"],
    "\u0080\u0081\u0082\u0083\u0084\u0085\u0086\u0087\u0088\u0089\u008A\u008B\u008C\u008D\u008E\u008F\u0090\u0091\u0092\u0093\u0094\u0095\u0096\u0097\u0098\u0099\u009A\u009B\u009C\u009D\u009E\u009F" ++
      "\u00A0Ħ\u02D8\u00A3\u00A4\uFFFDĤ\u00A7\u00A8İŞĞĴ\u00AD\uFFFDŻ\u00B0ħ²³\u00B4µĥ\u00B7\u00B8ışğĵ½\uFFFDż" ++
      "ÀÁÂ\uFFFDÄĊĈÇÈÉÊËÌÍÎÏ\uFFFDÑÒÓÔĠÖ\u00D7ĜÙÚÛÜŬŜß" ++
      "àáâ\uFFFDäċĉçèéêëìíîï\uFFFDñòóôġö\u00F7ĝùúûüŭŝ\u02D9"⟩

private def iso88594 : CodePage :=
  ⟨["csisolatin4", "iso8859_4", "iso_8859_4", "iso_8859_4_1988", "iso_ir_110", "l4", "latin4"],
    "\u0080\u0081\u0082\u0083\u0084\u0085\u0086\u0087\u0088\u0089\u008A\u008B\u008C\u008D\u008E\u008F\u0090\u0091\u0092\u0093\u0094\u0095\u0096\u0097\u0098\u0099\u009A\u009B\u009C\u009D\u009E\u009F" ++
      "\u00A0ĄĸŖ\u00A4ĨĻ\u00A7\u00A8ŠĒĢŦ\u00ADŽ\u00AF\u00B0ą\u02DBŗ\u00B4ĩļˇ\u00B8šēģŧŊžŋ" ++
      "ĀÁÂÃÄÅÆĮČÉĘËĖÍÎĪĐŅŌĶÔÕÖ\u00D7ØŲÚÛÜŨŪß" ++
      "āáâãäåæįčéęëėíîīđņōķôõö\u00F7øųúûüũū\u02D9"⟩

private def iso88599 : CodePage :=
  ⟨["csisolatin5", "iso8859_9", "iso_8859_9", "iso_8859_9_1989", "iso_ir_148", "l5", "latin5"],
    "\u0080\u0081\u0082\u0083\u0084\u0085\u0086\u0087\u0088\u0089\u008A\u008B\u008C\u008D\u008E\u008F\u0090\u0091\u0092\u0093\u0094\u0095\u0096\u0097\u0098\u0099\u009A\u009B\u009C\u009D\u009E\u009F" ++
      "\u00A0\u00A1\u00A2\u00A3\u00A4\u00A5\u00A6\u00A7\u00A8\u00A9ª\u00AB\u00AC\u00AD\u00AE\u00AF\u00B0\u00B1²³\u00B4µ\u00B6\u00B7\u00B8¹º\u00BB¼½¾\u00BF" ++
      "ÀÁÂÃÄÅÆÇÈÉÊËÌÍÎÏĞÑÒÓÔÕÖ\u00D7ØÙÚÛÜİŞß" ++
      "àáâãäåæçèéêëìíîïğñòóôõö\u00F7øùúûüışÿ"⟩

private def iso885910 : CodePage :=
  ⟨["csisolatin6", "iso8859_10", "iso_8859_10", "iso_8859_10_1992", "iso_ir_157", "l6", "latin6"],
    "\u0080\u0081\u0082\u0083\u0084\u0085\u0086\u0087\u0088\u0089\u008A\u008B\u008C\u008D\u008E\u008F\u0090\u0091\u0092\u0093\u0094\u0095\u0096\u0097\u0098\u0099\u009A\u009B\u009C\u009D\u009E\u009F" ++
      "\u00A0ĄĒĢĪĨĶ\u00A7ĻĐŠŦŽ\u00ADŪŊ\u00B0ąēģīĩķ\u00B7ļđšŧž\u2015ūŋ" ++
      "ĀÁÂÃÄÅÆĮČÉĘËĖÍÎÏÐŅŌÓÔÕÖŨØŲÚÛÜÝÞß" ++
      "āáâãäåæįčéęëėíîïðņōóôõöũøųúûüýþĸ"⟩

private def iso88595 : CodePage :=
  ⟨["csisolatincyrillic", "cyrillic", "iso8859_5", "iso_8859_5", "iso_8859_5_1988", "iso_ir_144"],
    "\u0080\u0081\u0082\u0083\u0084\u0085\u0086\u0087\u0088\u0089\u008A\u008B\u008C\u008D\u008E\u008F\u0090\u0091\u0092\u0093\u0094\u0095\u0096\u0097\u0098\u0099\u009A\u009B\u009C\u009D\u009E\u009F" ++
      "\u00A0ЁЂЃЄЅІЇЈЉЊЋЌ\u00ADЎЏАБВГДЕЖЗИЙКЛМНОП" ++
      "РСТУФХЦЧШЩЪЫЬЭЮЯабвгдежзийклмноп" ++
      "рстуфхцчшщъыьэюя\u2116ёђѓєѕіїјљњћќ\u00A7ўџ"⟩

private def iso88597 : CodePage :=
  ⟨["csisolatingreek", "ecma_118", "elot_928", "greek", "greek8", "iso8859_7", "iso_8859_7",
    "iso_8859_7_1987", "iso_ir_126"],
    "\u0080\u0081\u0082\u0083\u0084\u0085\u0086\u0087\u0088\u0089\u008A\u008B\u008C\u008D\u008E\u008F\u0090\u0091\u0092\u0093\u0094\u0095\u0096\u0097\u0098\u0099\u009A\u009B\u009C\u009D\u009E\u009F" ++
      "\u00A0\u2018\u2019\u00A3\u20AC\u20AF\u00A6\u00A7\u00A8\u00A9ͺ\u00AB\u00AC\u00AD\uFFFD\u2015\u00B0\u00B1²³\u0384\u0385Ά\u00B7ΈΉΊ\u00BBΌ½ΎΏ" ++
      "ΐΑΒΓΔΕΖΗΘΙΚΛΜΝΞΟΠΡ\uFFFDΣΤΥΦΧΨΩΪΫάέήί" ++
      "ΰαβγδεζηθικλμνξοπρςστυφχψωϊϋόύώ\uFFFD"⟩

private def iso88598 : CodePage :=
  ⟨["csisolatinhebrew", "hebrew", "iso8859_8", "iso_8859_8", "iso_8859_8_1988", "iso_ir_138"],
    "\u0080\u0081\u0082\u0083\u0084\u0085\u0086\u0087\u0088\u0089\u008A\u008B\u008C\u008D\u008E\u008F\u0090\u0091\u0092\u0093\u0094\u0095\u0096\u0097\u0098\u0099\u009A\u009B\u009C\u009D\u009E\u009F" ++
      "\u00A0\uFFFD\u00A2\u00A3\u00A4\u00A5\u00A6\u00A7\u00A8\u00A9\u00D7\u00AB\u00AC\u00AD\u00AE\u00AF\u00B0\u00B1²³\u00B4µ\u00B6\u00B7\u00B8¹\u00F7\u00BB¼½¾\uFFFD" ++
      "\uFFFD\uFFFD\uFFFD\uFFFD\uFFFD\uFFFD\uFFFD\uFFFD\uFFFD\uFFFD\uFFFD\uFFFD\uFFFD\uFFFD\uFFFD\uFFFD\uFFFD\uFFFD\uFFFD\uFFFD\uFFFD\uFFFD\uFFFD\uFFFD\uFFFD\uFFFD\uFFFD\uFFFD\uFFFD\uFFFD\uFFFD\u2017" ++
      "\u05D0\u05D1\u05D2\u05D3\u05D4\u05D5\u05D6\u05D7\u05D8\u05D9\u05DA\u05DB\u05DC\u05DD\u05DE\u05DF\u05E0\u05E1\u05E2\u05E3\u05E4\u05E5\u05E6\u05E7\u05E8\u05E9\u05EA\uFFFD\uFFFD\u200E\u200F\uFFFD"⟩

private def koi8R : CodePage :=
  ⟨["cskoi8r", "koi8_r"],
    "\u2500\u2502\u250C\u2510\u2514\u2518\u251C\u2524\u252C\u2534\u253C\u2580\u2584\u2588\u258C\u2590\u2591\u2592\u2593\u2320\u25A0\u2219\u221A\u2248\u2264\u2265\u00A0\u2321\u00B0²\u00B7\u00F7" ++
      "\u2550\u2551\u2552ё\u2553\u2554\u2555\u2556\u2557\u2558\u2559\u255A\u255B\u255C\u255D\u255E\u255F\u2560\u2561Ё\u2562\u2563\u2564\u2565\u2566\u2567\u2568\u2569\u256A\u256B\u256C\u00A9" ++
      "юабцдефгхийклмнопярстужвьызшэщчъ" ++
      "ЮАБЦДЕФГХИЙКЛМНОПЯРСТУЖВЬЫЗШЭЩЧЪ"⟩

private def iso885911 : CodePage :=
  ⟨["iso8859_11", "iso_8859_11", "iso_8859_11_2001", "thai"],
    "\u0080\u0081\u0082\u0083\u0084\u0085\u0086\u0087\u0088\u0089\u008A\u008B\u008C\u008D\u008E\u008F\u0090\u0091\u0092\u0093\u0094\u0095\u0096\u0097\u0098\u0099\u009A\u009B\u009C\u009D\u009E\u009F" ++
      "\u00A0\u0E01\u0E02\u0E03\u0E04\u0E05\u0E06\u0E07\u0E08\u0E09\u0E0A\u0E0B\u0E0C\u0E0D\u0E0E\u0E0F\u0E10\u0E11\u0E12\u0E13\u0E14\u0E15\u0E16\u0E17\u0E18\u0E19\u0E1A\u0E1B\u0E1C\u0E1D\u0E1E\u0E1F" ++
      "\u0E20\u0E21\u0E22\u0E23\u0E24\u0E25\u0E26\u0E27\u0E28\u0E29\u0E2A\u0E2B\u0E2C\u0E2D\u0E2E\u0E2F\u0E30\u0E31\u0E32\u0E33\u0E34\u0E35\u0E36\u0E37\u0E38\u0E39\u0E3A\uFFFD\uFFFD\uFFFD\uFFFD\u0E3F" ++
      "\u0E40\u0E41\u0E42\u0E43\u0E44\u0E45\u0E46\u0E47\u0E48\u0E49\u0E4A\u0E4B\u0E4C\u0E4D\u0E4E\u0E4F\u0E50\u0E51\u0E52\u0E53\u0E54\u0E55\u0E56\u0E57\u0E58\u0E59\u0E5A\u0E5B\uFFFD\uFFFD\uFFFD\uFFFD"⟩

private def iso885913 : CodePage :=
  ⟨["iso8859_13", "iso_8859_13", "l7", "latin7"],
    "\u0080\u0081\u0082\u0083\u0084\u0085\u0086\u0087\u0088\u0089\u008A\u008B\u008C\u008D\u008E\u008F\u0090\u0091\u0092\u0093\u0094\u0095\u0096\u0097\u0098\u0099\u009A\u009B\u009C\u009D\u009E\u009F" ++
      "\u00A0\u201D\u00A2\u00A3\u00A4\u201E\u00A6\u00A7Ø\u00A9Ŗ\u00AB\u00AC\u00AD\u00AEÆ\u00B0\u00B1²³\u201Cµ\u00B6\u00B7ø¹ŗ\u00BB¼½¾æ" ++
      "ĄĮĀĆÄÅĘĒČÉŹĖĢĶĪĻŠŃŅÓŌÕÖ\u00D7ŲŁŚŪÜŻŽß" ++
      "ąįāćäåęēčéźėģķīļšńņóōõö\u00F7ųłśūüżž\u2019"⟩

private def iso885914 : CodePage :=
  ⟨["iso8859_14", "iso_8859_14", "iso_8859_14_1998", "iso_celtic", "iso_ir_199", "l8", "latin8"],
    "\u0080\u0081\u0082\u0083\u0084\u0085\u0086\u0087\u0088\u0089\u008A\u008B\u008C\u008D\u008E\u008F\u0090\u0091\u0092\u0093\u0094\u0095\u0096\u0097\u0098\u0099\u009A\u009B\u009C\u009D\u009E\u009F" ++
      "\u00A0\u1E02\u1E03\u00A3Ċċ\u1E0A\u00A7\u1E80\u00A9\u1E82\u1E0B\u1EF2\u00AD\u00AEŸ\u1E1E\u1E1FĠġ\u1E40\u1E41\u00B6\u1E56\u1E81\u1E57\u1E83\u1E60\u1EF3\u1E84\u1E85\u1E61" ++
      "ÀÁÂÃÄÅÆÇÈÉÊËÌÍÎÏŴÑÒÓÔÕÖ\u1E6AØÙÚÛÜÝŶß" ++
      "àáâãäåæçèéêëìíîïŵñòóôõö\u1E6Bøùúûüýŷÿ"⟩

private def iso885915 : CodePage :=
  ⟨["iso8859_15", "iso_8859_15", "l9", "latin9"],
    "\u0080\u0081\u0082\u0083\u0084\u0085\u0086\u0087\u0088\u0089\u008A\u008B\u008C\u008D\u008E\u008F\u0090\u0091\u0092\u0093\u0094\u0095\u0096\u0097\u0098\u0099\u009A\u009B\u009C\u009D\u009E\u009F" ++
      "\u00A0\u00A1\u00A2\u00A3\u20AC\u00A5Š\u00A7š\u00A9ª\u00AB\u00AC\u00AD\u00AE\u00AF\u00B0\u00B1²³Žµ\u00B6\u00B7ž¹º\u00BBŒœŸ\u00BF" ++
      "ÀÁÂÃÄÅÆÇÈÉÊËÌÍÎÏÐÑÒÓÔÕÖ\u00D7ØÙÚÛÜÝÞß" ++
      "àáâãäåæçèéêëìíîïðñòóôõö\u00F7øùúûüýþÿ"⟩

private def iso885916 : CodePage :=
  ⟨["iso8859_16", "iso_8859_16", "iso_8859_16_2001", "iso_ir_226", "l10", "latin10"],
    "\u0080\u0081\u0082\u0083\u0084\u0085\u0086\u0087\u0088\u0089\u008A\u008B\u008C\u008D\u008E\u008F\u0090\u0091\u0092\u0093\u0094\u0095\u0096\u0097\u0098\u0099\u009A\u009B\u009C\u009D\u009E\u009F" ++
      "\u00A0ĄąŁ\u20AC\u201EŠ\u00A7š\u00A9Ș\u00ABŹ\u00ADźŻ\u00B0\u00B1ČłŽ\u201D\u00B6\u00B7žčș\u00BBŒœŸż" ++
      "ÀÁÂĂÄĆÆÇÈÉÊËÌÍÎÏĐŃÒÓÔŐÖŚŰÙÚÛÜĘȚß" ++
      "àáâăäćæçèéêëìíîïđńòóôőöśűùúûüęțÿ"⟩

private def tis620 : CodePage :=
  ⟨["iso_ir_166", "tis620", "tis_620", "tis_620_0", "tis_620_2529_0", "tis_620_2529_1"],
    "\u0080\u0081\u0082\u0083\u0084\u0085\u0086\u0087\u0088\u0089\u008A\u008B\u008C\u008D\u008E\u008F\u0090\u0091\u0092\u0093\u0094\u0095\u0096\u0097\u0098\u0099\u009A\u009B\u009C\u009D\u009E\u009F" ++
      "\uFFFD\u0E01\u0E02\u0E03\u0E04\u0E05\u0E06\u0E07\u0E08\u0E09\u0E0A\u0E0B\u0E0C\u0E0D\u0E0E\u0E0F\u0E10\u0E11\u0E12\u0E13\u0E14\u0E15\u0E16\u0E17\u0E18\u0E19\u0E1A\u0E1B\u0E1C\u0E1D\u0E1E\u0E1F" ++
      "\u0E20\u0E21\u0E22\u0E23\u0E24\u0E25\u0E26\u0E27\u0E28\u0E29\u0E2A\u0E2B\u0E2C\u0E2D\u0E2E\u0E2F\u0E30\u0E31\u0E32\u0E33\u0E34\u0E35\u0E36\u0E37\u0E38\u0E39\u0E3A\uFFFD\uFFFD\uFFFD\uFFFD\u0E3F" ++
      "\u0E40\u0E41\u0E42\u0E43\u0E44\u0E45\u0E46\u0E47\u0E48\u0E49\u0E4A\u0E4B\u0E4C\u0E4D\u0E4E\u0E4F\u0E50\u0E51\u0E52\u0E53\u0E54\u0E55\u0E56\u0E57\u0E58\u0E59\u0E5A\u0E5B\uFFFD\uFFFD\uFFFD\uFFFD"⟩

private def koi8T : CodePage :=
  ⟨["koi8_t"],
    "қғ\u201AҒ\u201E\u2026\u2020\u2021\uFFFD\u2030ҳ\u2039ҲҷҶ\uFFFDҚ\u2018\u2019\u201C\u201D\u2022\u2013\u2014\uFFFD\u2122\uFFFD\u203A\uFFFD\uFFFD\uFFFD\uFFFD" ++
      "\uFFFDӯӮё\u00A4ӣ\u00A6\u00A7\uFFFD\uFFFD\uFFFD\u00AB\u00AC\u00AD\u00AE\uFFFD\u00B0\u00B1²Ё\uFFFDӢ\u00B6\u00B7\uFFFD\u2116\uFFFD\u00BB\uFFFD\uFFFD\uFFFD\u00A9" ++
      "юабцдефгхийклмнопярстужвьызшэщчъ" ++
      "ЮАБЦДЕФГХИЙКЛМНОПЯРСТУЖВЬЫЗШЭЩЧЪ"⟩

private def koi8U : CodePage :=
  ⟨["koi8_u"],
    "\u2500\u2502\u250C\u2510\u2514\u2518\u251C\u2524\u252C\u2534\u253C\u2580\u2584\u2588\u258C\u2590\u2591\u2592\u2593\u2320\u25A0\u2219\u221A\u2248\u2264\u2265\u00A0\u2321\u00B0²\u00B7\u00F7" ++
      "\u2550\u2551\u2552ёє\u2554ії\u2557\u2558\u2559\u255A\u255Bґ\u255D\u255E\u255F\u2560\u2561ЁЄ\u2563ІЇ\u2566\u2567\u2568\u2569\u256AҐ\u256C\u00A9" ++
      "юабцдефгхийклмнопярстужвьызшэщчъ" ++
      "ЮАБЦДЕФГХИЙКЛМНОПЯРСТУЖВЬЫЗШЭЩЧЪ"⟩

private def kz1048 : CodePage :=
  ⟨["kz1048", "kz_1048", "rk1048", "strk1048_2002"],
    "ЂЃ\u201Aѓ\u201E\u2026\u2020\u2021\u20AC\u2030Љ\u2039ЊҚҺЏђ\u2018\u2019\u201C\u201D\u2022\u2013\u2014\uFFFD\u2122љ\u203Aњқһџ" ++
      "\u00A0ҰұӘ\u00A4Ө\u00A6\u00A7Ё\u00A9Ғ\u00AB\u00AC\u00AD\u00AEҮ\u00B0\u00B1Ііөµ\u00B6\u00B7ё\u2116ғ\u00BBәҢңү" ++
      "АБВГДЕЖЗИЙКЛМНОПРСТУФХЦЧШЩЪЫЬЭЮЯ" ++
      "абвгдежзийклмнопрстуфхцчшщъыьэюя"⟩

private def maclatin2 : CodePage :=
  ⟨["mac_centeuro", "mac_latin2", "maccentraleurope", "maclatin2"],
    "ÄĀāÉĄÖÜáąČäčĆćéŹźĎíďĒēĖóėôöõúĚěü" ++
      "\u2020\u00B0Ę\u00A3\u00A7\u2022\u00B6ß\u00AE\u00A9\u2122ę\u00A8\u2260ģĮįĪ\u2264\u2265īĶ\u2202\u2211łĻļĽľĹĺŅ" ++
      "ņŃ\u00AC\u221AńŇ\u2206\u00AB\u00BB\u2026\u00A0ňŐÕőŌ\u2013\u2014\u201C\u201D\u2018\u2019\u00F7\u25CAōŔŕŘ\u2039\u203AřŖ" ++
      "ŗŠ\u201A\u201EšŚśÁŤťÍŽžŪÓÔūŮÚůŰűŲųÝýķŻŁżĢˇ"⟩

private def macCroatian : CodePage :=
  ⟨["mac_croatian"],
    "ÄÅÇÉÑÖÜáàâäãåçéèêëíìîïñóòôöõúùûü" ++
      "\u2020\u00B0\u00A2\u00A3\u00A7\u2022\u00B6ß\u00AEŠ\u2122\u00B4\u00A8\u2260ŽØ\u221E\u00B1\u2264\u2265\u2206µ\u2202\u2211\u220Fš\u222BªºΩžø" ++
      "\u00BF\u00A1\u00AC\u221Aƒ\u2248Ć\u00ABČ\u2026\u00A0ÀÃÕŒœĐ\u2014\u201C\u201D\u2018\u2019\u00F7\u25CA\uF8FF\u00A9\u2044\u20AC\u2039\u203AÆ\u00BB" ++
      "\u2013\u00B7\u201A\u201E\u2030ÂćÁčÈÍÎÏÌÓÔđÒÚÛÙıˆ\u02DC\u00AFπË\u02DA\u00B8Êæˇ"⟩

private def maccyrillic : CodePage :=
  ⟨["mac_cyrillic", "maccyrillic"],
    "АБВГДЕЖЗИЙКЛМНОПРСТУФХЦЧШЩЪЫЬЭЮЯ" ++
      "\u2020\u00B0Ґ\u00A3\u00A7\u2022\u00B6І\u00AE\u00A9\u2122Ђђ\u2260Ѓѓ\u221E\u00B1\u2264\u2265іµґЈЄєЇїЉљЊњ" ++
      "јЅ\u00AC\u221Aƒ\u2248\u2206\u00AB\u00BB\u2026\u00A0ЋћЌќѕ\u2013\u2014\u201C\u201D\u2018\u2019\u00F7\u201EЎўЏџ\u2116Ёёя" ++
      "абвгдежзийклмнопрстуфхцчшщъыьэю\u20AC"⟩

private def macgreek : CodePage :=
  ⟨["mac_greek", "macgreek"],
    "Ä¹²É³ÖÜ\u0385àâä\u0384\u00A8çéèêë\u00A3\u2122îï\u2022½\u2030ôö\u00A6\u20ACùûü" ++
      "\u2020ΓΔΘΛΞΠß\u00AE\u00A9ΣΪ\u00A7\u2260\u00B0\u00B7Α\u00B1\u2264\u2265\u00A5ΒΕΖΗΙΚΜΦΫΨΩ" ++
      "άΝ\u00ACΟΡ\u2248Τ\u00AB\u00BB\u2026\u00A0ΥΧΆΈœ\u2013\u2015\u201C\u201D\u2018\u2019\u00F7ΉΊΌΎέήίόΏ" ++
      "ύαβψδεφγηιξκλμνοπώρστθωςχυζϊϋΐΰ\u00AD"⟩

private def maciceland : CodePage :=
  ⟨["mac_iceland", "maciceland"],
    "ÄÅÇÉÑÖÜáàâäãåçéèêëíìîïñóòôöõúùûü" ++
      "Ý\u00B0\u00A2\u00A3\u00A7\u2022\u00B6ß\u00AE\u00A9\u2122\u00B4\u00A8\u2260ÆØ\u221E\u00B1\u2264\u2265\u00A5µ\u2202\u2211\u220Fπ\u222BªºΩæø" ++
      "\u00BF\u00A1\u00AC\u221Aƒ\u2248\u2206\u00AB\u00BB\u2026\u00A0ÀÃÕŒœ\u2013\u2014\u201C\u201D\u2018\u2019\u00F7\u25CAÿŸ\u2044\u20ACÐðÞþ" ++
      "ý\u00B7\u201A\u201E\u2030ÂÊÁËÈÍÎÏÌÓÔ\uF8FFÒÚÛÙıˆ\u02DC\u00AF\u02D8\u02D9\u02DA\u00B8\u02DD\u02DBˇ"⟩

private def macroman : CodePage :=
  ⟨["mac_roman", "macintosh", "macroman"],
    "ÄÅÇÉÑÖÜáàâäãåçéèêëíìîïñóòôöõúùûü" ++
      "\u2020\u00B0\u00A2\u00A3\u00A7\u2022\u00B6ß\u00AE\u00A9\u2122\u00B4\u00A8\u2260ÆØ\u221E\u00B1\u2264\u2265\u00A5µ\u2202\u2211\u220Fπ\u222BªºΩæø" ++
      "\u00BF\u00A1\u00AC\u221Aƒ\u2248\u2206\u00AB\u00BB\u2026\u00A0ÀÃÕŒœ\u2013\u2014\u201C\u201D\u2018\u2019\u00F7\u25CAÿŸ\u2044\u20AC\u2039\u203A\uFB01\uFB02" ++
      "\u2021\u00B7\u201A\u201E\u2030ÂÊÁËÈÍÎÏÌÓÔ\uF8FFÒÚÛÙıˆ\u02DC\u00AF\u02D8\u02D9\u02DA\u00B8\u02DD\u02DBˇ"⟩

private def macRomanian : CodePage :=
  ⟨["mac_romanian"],
    "ÄÅÇÉÑÖÜáàâäãåçéèêëíìîïñóòôöõúùûü" ++
      "\u2020\u00B0\u00A2\u00A3\u00A7\u2022\u00B6ß\u00AE\u00A9\u2122\u00B4\u00A8\u2260ĂȘ\u221E\u00B1\u2264\u2265\u00A5µ\u2202\u2211\u220Fπ\u222BªºΩăș" ++
      "\u00BF\u00A1\u00AC\u221Aƒ\u2248\u2206\u00AB\u00BB\u2026\u00A0ÀÃÕŒœ\u2013\u2014\u201C\u201D\u2018\u2019\u00F7\u25CAÿŸ\u2044\u20AC\u2039\u203AȚț" ++
      "\u2021\u00B7\u201A\u201E\u2030ÂÊÁËÈÍÎÏÌÓÔ\uF8FFÒÚÛÙıˆ\u02DC\u00AF\u02D8\u02D9\u02DA\u00B8\u02DD\u02DBˇ"⟩

private def macturkish : CodePage :=
  ⟨["mac_turkish", "macturkish"],
    "ÄÅÇÉÑÖÜáàâäãåçéèêëíìîïñóòôöõúùûü" ++
      "\u2020\u00B0\u00A2\u00A3\u00A7\u2022\u00B6ß\u00AE\u00A9\u2122\u00B4\u00A8\u2260ÆØ\u221E\u00B1\u2264\u2265\u00A5µ\u2202\u2211\u220Fπ\u222BªºΩæø" ++
      "\u00BF\u00A1\u00AC\u221Aƒ\u2248\u2206\u00AB\u00BB\u2026\u00A0ÀÃÕŒœ\u2013\u2014\u201C\u201D\u2018\u2019\u00F7\u25CAÿŸĞğİıŞş" ++
      "\u2021\u00B7\u201A\u201E\u2030ÂÊÁËÈÍÎÏÌÓÔ\uF8FFÒÚÛÙ\uF8A0ˆ\u02DC\u00AF\u02D8\u02D9\u02DA\u00B8\u02DD\u02DBˇ"⟩

private def palmos : CodePage :=
  ⟨["palmos"],
    "\u20AC\u0081\u201Aƒ\u201E\u2026\u2020\u2021ˆ\u2030Š\u2039Œ\u2666\u2663\u2665\u2660\u2018\u2019\u201C\u201D\u2022\u2013\u2014\u02DC\u2122š\u009Bœ\u009D\u009EŸ" ++
      "\u00A0\u00A1\u00A2\u00A3\u00A4\u00A5\u00A6\u00A7\u00A8\u00A9ª\u00AB\u00AC\u00AD\u00AE\u00AF\u00B0\u00B1²³\u00B4µ\u00B6\u00B7\u00B8¹º\u00BB¼½¾\u00BF" ++
      "ÀÁÂÃÄÅÆÇÈÉÊËÌÍÎÏÐÑÒÓÔÕÖ\u00D7ØÙÚÛÜÝÞß" ++
      "àáâãäåæçèéêëìíîïðñòóôõö\u00F7øùúûüýþÿ"⟩

def CodePage.all : List CodePage :=
  [cp1125, cp1250, cp1251, cp1252, cp1253, cp1254, cp1255, cp1256, cp1257, cp1258, cp437, ascii,
    cp775, cp850, cp852, cp855, cp857, cp858, cp860, cp861, cp862, cp863, cp865, cp866, cp869,
    cp819, iso88596, cp1006, cp1051, cp154, cp720, cp737, cp856, cp874, iso88592, iso88593,
    iso88594, iso88599, iso885910, iso88595, iso88597, iso88598, koi8R, iso885911, iso885913,
    iso885914, iso885915, iso885916, tis620, koi8T, koi8U, kz1048, maclatin2, macCroatian,
    maccyrillic, macgreek, maciceland, macroman, macRomanian, macturkish,
    palmos]

/-- Character sets of several bytes a character, which cannot be read. -/
def multiByteNames : List String :=
  ["932", "936", "949", "950", "big5", "big5_hkscs", "big5_tw", "big5hkscs", "chinese", "cp1361",
    "cp932", "cp936", "cp949", "cp950", "csbig5", "csiso2022kr", "csiso58gb231280", "csshiftjis",
    "euc_cn", "euc_jis2004", "euc_jis_2004", "euc_jisx0213", "euc_jp", "euc_kr", "euccn",
    "eucgb2312_cn", "eucjis2004", "eucjisx0213", "eucjp", "euckr", "gb18030", "gb18030_2000",
    "gb2312", "gb2312_1980", "gb2312_80", "gbk", "hkscs", "iso2022_kr", "iso2022kr",
    "iso_2022_kr", "iso_ir_58", "jisx0213", "johab", "korean", "ks_c_5601", "ks_c_5601_1987",
    "ks_x_1001", "ksc5601", "ksx1001", "ms1361", "ms932", "ms936", "ms949", "ms950", "ms_kanji",
    "mskanji", "s_jis", "s_jis_2004", "s_jisx0213", "shift_jis", "shift_jis_2004",
    "shift_jisx0213", "shiftjis", "shiftjis2004", "shiftjisx0213", "sjis", "sjis_2004",
    "sjisx0213", "u16", "u32", "u7", "u_jis", "uhc", "ujis", "unicode_1_1_utf_7",
    "unicodebigunmarked", "unicodelittleunmarked", "utf16", "utf32", "utf7", "utf_16",
    "utf_16_be", "utf_16_le", "utf_16be", "utf_16le", "utf_32", "utf_32_be", "utf_32_le",
    "utf_32be", "utf_32le", "utf_7", "x_mac_japanese", "x_mac_korean", "x_mac_simp_chinese",
    "x_mac_trad_chinese"]

/-- Character sets of one byte a character that do not agree with ASCII or repeat a character of it, which cannot be
read either. -/
def foreignNames : List String :=
  ["037", "1026", "1140", "273", "424", "500", "864", "cp037", "cp1026", "cp1140", "cp273",
    "cp424", "cp500", "cp864", "cp875", "csibm037", "csibm1026", "csibm273", "csibm424",
    "csibm500", "csibm864", "ebcdic_cp_be", "ebcdic_cp_ca", "ebcdic_cp_ch", "ebcdic_cp_he",
    "ebcdic_cp_nl", "ebcdic_cp_us", "ebcdic_cp_wt", "ibm037", "ibm039", "ibm1026", "ibm1140",
    "ibm273", "ibm424", "ibm500", "ibm864", "mac_arabic", "mac_farsi"]

/-- ASCII in which a tilde leads to other characters. -/
def tildeNames : List String := ["hz", "hz_gb", "hz_gb_2312", "hzgb"]

/-- What turns bytes into bytes, or texts into texts. -/
def notTextNames : List String :=
  ["base64", "base64_codec", "base_64", "bz2", "bz2_codec", "hex", "hex_codec", "quopri", "quopri_codec",
    "quoted_printable", "quotedprintable", "rot13", "rot_13", "uu", "uu_codec", "zip", "zlib", "zlib_codec"]

/-- Names in which no dot stands for an underscore. -/
def dotlessNames : List String :=
  ["base64_codec", "bz2_codec", "euc_jis_2004", "euc_jisx0213", "euc_jp", "euc_kr", "hex_codec", "hp_roman8",
    "iso2022_jp", "iso2022_jp_1", "iso2022_jp_2", "iso2022_jp_2004", "iso2022_jp_3", "iso2022_jp_ext",
    "iso2022_kr", "iso8859_10", "iso8859_11", "iso8859_13", "iso8859_14", "iso8859_15", "iso8859_16", "iso8859_2",
    "iso8859_3", "iso8859_4", "iso8859_5", "iso8859_6", "iso8859_7", "iso8859_8", "iso8859_9", "koi8_r", "koi8_t",
    "koi8_u", "latin_1", "mac_arabic", "mac_croatian", "mac_cyrillic", "mac_farsi", "mac_greek", "mac_iceland",
    "mac_latin2", "mac_roman", "mac_romanian", "mac_turkish", "quopri_codec", "raw_unicode_escape", "rot_13",
    "shift_jis", "shift_jis_2004", "shift_jisx0213", "tis_620", "unicode_escape", "utf_16", "utf_16_be",
    "utf_16_le", "utf_32", "utf_32_be", "utf_32_le", "utf_7", "utf_8", "utf_8_sig", "uu_codec", "zlib_codec"]

/-- Names are compared in lower case, with every run of other characters as one underscore. -/
def foldName (name : String) : String :=
  let words := (Text.splitAt '_' (name.toList.map fun c =>
    if c.isAlphanum || c = '.' then Text.lower c else '_')).filter (· ≠ [])
  String.ofList (Text.joinWith '_' words)

/-- A name is among some, perhaps with dots in place of underscores. -/
def isNamed (names : List String) (name : String) : Bool :=
  let undotted := String.ofList ((foldName name).toList.map fun c => if c = '.' then '_' else c)
  names.contains (foldName name) || (names.contains undotted && !dotlessNames.contains undotted)

def CodePage.find? (name : String) : Option CodePage := CodePage.all.find? fun page => isNamed page.names name

def CodePage.char? (page : CodePage) (byte : UInt8) : Option Char :=
  if byte < 0x80 then some (Char.ofNat byte.toNat)
  else
    match page.upperHalf.toList[byte.toNat - 0x80]? with
    | some c => if c = '\uFFFD' then none else some c
    | none => none

end UsingCensus.Xml
