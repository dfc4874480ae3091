import LicenseSeal.Encoding.Charset

/-!
# The charsets of ISO 8859

ASCII with the letters of one group of languages each, and the national standard of Thailand.
-/

namespace LicenseSeal.Encoding

/-- The charsets of ISO 8859 and their like. -/
def isoCharsets : List NamedCharset := [
  ⟨"iso8859_2", ["csisolatin2", "iso_8859_2", "iso_8859_2_1987", "iso_ir_101", "l2", "latin2"],
    .table 161 ("Ą˘Ł¤ĽŚ§¨ŠŞŤŹ\u00adŽŻ°ą˛ł´ľśˇ¸šşťź˝žżŔÁÂĂÄĹĆÇČÉĘËĚÍÎĎĐŃŇÓÔŐÖ×ŘŮÚŰÜÝŢßŕáâăäĺćçčé"
      ++ "ęëěíîďđńňóôőö÷řůúűüýţ˙")⟩,
  ⟨"iso8859_3", ["csisolatin3", "iso_8859_3", "iso_8859_3_1988", "iso_ir_109", "l3", "latin3"],
    .table 161 ("Ħ˘£¤□Ĥ§¨İŞĞĴ\u00ad□Ż°ħ²³´µĥ·¸ışğĵ½□żÀÁÂ□ÄĊĈÇÈÉÊËÌÍÎÏ□ÑÒÓÔĠÖ×ĜÙÚÛÜŬŜßàáâ□äċĉçèé"
      ++ "êëìíîï□ñòóôġö÷ĝùúûüŭŝ˙")⟩,
  ⟨"iso8859_4", ["csisolatin4", "iso_8859_4", "iso_8859_4_1988", "iso_ir_110", "l4", "latin4"],
    .table 161 ("ĄĸŖ¤ĨĻ§¨ŠĒĢŦ\u00adŽ¯°ą˛ŗ´ĩļˇ¸šēģŧŊžŋĀÁÂÃÄÅÆĮČÉĘËĖÍÎĪĐŅŌĶÔÕÖ×ØŲÚÛÜŨŪßāáâãäåæįčé"
      ++ "ęëėíîīđņōķôõö÷øųúûüũū˙")⟩,
  ⟨"iso8859_5", ["csisolatincyrillic", "cyrillic", "iso_8859_5", "iso_8859_5_1988", "iso_ir_144"],
    .table 161 ("ЁЂЃЄЅІЇЈЉЊЋЌ\u00adЎЏАБВГДЕЖЗИЙКЛМНОПРСТУФХЦЧШЩЪЫЬЭЮЯабвгдежзийклмнопрстуфхцчшщ"
      ++ "ъыьэюя№ёђѓєѕіїјљњћќ§ўџ")⟩,
  ⟨"iso8859_6", ["arabic", "asmo_708", "csisolatinarabic", "ecma_114", "iso_8859_6",
    "iso_8859_6_1987", "iso_ir_127"],
    .table 161 ("□□□¤□□□□□□□،\u00ad□□□□□□□□□□□□□\u061b□□□\u061f□\u0621\u0622\u0623\u0624\u0625"
      ++ "\u0626\u0627\u0628\u0629\u062a\u062b\u062c\u062d\u062e\u062f\u0630\u0631\u0632"
      ++ "\u0633\u0634\u0635\u0636\u0637\u0638\u0639\u063a□□□□□\u0640\u0641\u0642\u0643"
      ++ "\u0644\u0645\u0646\u0647\u0648\u0649\u064a\u064b\u064c\u064d\u064e\u064f\u0650"
      ++ "\u0651\u0652□□□□□□□□□□□□□")⟩,
  ⟨"iso8859_7", ["csisolatingreek", "ecma_118", "elot_928", "greek", "greek8", "iso_8859_7",
    "iso_8859_7_1987", "iso_ir_126"],
    .table 161 ("‘’£€₯¦§¨©ͺ«¬\u00ad□―°±²³΄΅Ά·ΈΉΊ»Ό½ΎΏΐΑΒΓΔΕΖΗΘΙΚΛΜΝΞΟΠΡ□ΣΤΥΦΧΨΩΪΫάέήίΰαβγδεζηθι"
      ++ "κλμνξοπρςστυφχψωϊϋόύώ□")⟩,
  ⟨"iso8859_8", ["csisolatinhebrew", "hebrew", "iso_8859_8", "iso_8859_8_1988", "iso_ir_138"],
    .table 161 ("□¢£¤¥¦§¨©×«¬\u00ad®¯°±²³´µ¶·¸¹÷»¼½¾□□□□□□□□□□□□□□□□□□□□□□□□□□□□□□□□‗\u05d0"
      ++ "\u05d1\u05d2\u05d3\u05d4\u05d5\u05d6\u05d7\u05d8\u05d9\u05da\u05db\u05dc\u05dd"
      ++ "\u05de\u05df\u05e0\u05e1\u05e2\u05e3\u05e4\u05e5\u05e6\u05e7\u05e8\u05e9\u05ea"
      ++ "□□\u200e\u200f□")⟩,
  ⟨"iso8859_9", ["csisolatin5", "iso_8859_9", "iso_8859_9_1989", "iso_ir_148", "l5", "latin5"],
    .table 208 "ĞÑÒÓÔÕÖ×ØÙÚÛÜİŞßàáâãäåæçèéêëìíîïğñòóôõö÷øùúûüışÿ"⟩,
  ⟨"iso8859_10", ["csisolatin6", "iso_8859_10", "iso_8859_10_1992", "iso_ir_157", "l6", "latin6"],
    .table 161 ("ĄĒĢĪĨĶ§ĻĐŠŦŽ\u00adŪŊ°ąēģīĩķ·ļđšŧž―ūŋĀÁÂÃÄÅÆĮČÉĘËĖÍÎÏÐŅŌÓÔÕÖŨØŲÚÛÜÝÞßāáâãäåæįčé"
      ++ "ęëėíîïðņōóôõöũøųúûüýþĸ")⟩,
  ⟨"iso8859_11", ["iso_8859_11", "iso_8859_11_2001", "thai"],
    .table 161 ("กขฃคฅฆงจฉชซฌญฎฏฐฑฒณดตถทธนบปผฝพฟภมยรฤลฦวศษสหฬอฮฯะ\u0e31าำ\u0e34\u0e35\u0e36"
      ++ "\u0e37\u0e38\u0e39\u0e3a□□□□฿เแโใไๅๆ\u0e47\u0e48\u0e49\u0e4a\u0e4b\u0e4c\u0e4d"
      ++ "\u0e4e๏๐๑๒๓๔๕๖๗๘๙๚๛□□□□")⟩,
  ⟨"iso8859_13", ["iso_8859_13", "l7", "latin7"],
    .table 161 ("”¢£¤„¦§Ø©Ŗ«¬\u00ad®Æ°±²³“µ¶·ø¹ŗ»¼½¾æĄĮĀĆÄÅĘĒČÉŹĖĢĶĪĻŠŃŅÓŌÕÖ×ŲŁŚŪÜŻŽßąįāćäåęēčé"
      ++ "źėģķīļšńņóōõö÷ųłśūüżž’")⟩,
  ⟨"iso8859_14", ["iso_8859_14", "iso_8859_14_1998", "iso_celtic", "iso_ir_199", "l8", "latin8"],
    .table 161 ("Ḃḃ£ĊċḊ§Ẁ©ẂḋỲ\u00ad®ŸḞḟĠġṀṁ¶ṖẁṗẃṠỳẄẅṡÀÁÂÃÄÅÆÇÈÉÊËÌÍÎÏŴÑÒÓÔÕÖṪØÙÚÛÜÝŶßàáâãäåæçèé"
      ++ "êëìíîïŵñòóôõöṫøùúûüýŷÿ")⟩,
  ⟨"iso8859_15", ["iso_8859_15", "l9", "latin9"],
    .table 164 ("€¥Š§š©ª«¬\u00ad®¯°±²³Žµ¶·ž¹º»ŒœŸ¿ÀÁÂÃÄÅÆÇÈÉÊËÌÍÎÏÐÑÒÓÔÕÖ×ØÙÚÛÜÝÞßàáâãäåæçèéêëì"
      ++ "íîïðñòóôõö÷øùúûüýþÿ")⟩,
  ⟨"iso8859_16", ["iso_8859_16", "iso_8859_16_2001", "iso_ir_226", "l10", "latin10"],
    .table 161 ("ĄąŁ€„Š§š©Ș«Ź\u00adźŻ°±ČłŽ”¶·žčș»ŒœŸżÀÁÂĂÄĆÆÇÈÉÊËÌÍÎÏĐŃÒÓÔŐÖŚŰÙÚÛÜĘȚßàáâăäćæçèé"
      ++ "êëìíîïđńòóôőöśűùúûüęțÿ")⟩,
  ⟨"tis_620", ["iso_ir_166", "tis620", "tis_620_0", "tis_620_2529_0", "tis_620_2529_1"],
    .table 160 ("□กขฃคฅฆงจฉชซฌญฎฏฐฑฒณดตถทธนบปผฝพฟภมยรฤลฦวศษสหฬอฮฯะ\u0e31าำ\u0e34\u0e35\u0e36"
      ++ "\u0e37\u0e38\u0e39\u0e3a□□□□฿เแโใไๅๆ\u0e47\u0e48\u0e49\u0e4a\u0e4b\u0e4c\u0e4d"
      ++ "\u0e4e๏๐๑๒๓๔๕๖๗๘๙๚๛□□□□")⟩]

end LicenseSeal.Encoding
