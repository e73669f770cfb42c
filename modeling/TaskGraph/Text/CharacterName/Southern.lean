import TaskGraph.Text.CharacterName.Basic
set_option autoImplicit false

/-! Names of characters: the scripts of South Asia. -/

namespace TaskGraph.Text.CharacterName

def southern : List Run :=
  [⟨0x800, "SAMARITAN LETTER ", [
      "ALAF|BIT|GAMAN|DALAT|IY|BAA|ZEN|IT|TIT|YUT|KAAF|LABAT|MIM|NUN|SINGAAT|IN|FI|TSAADIY|QUF",
      "RISH|SHAN|TAAF"]⟩,
    ⟨0x816, "SAMARITAN ", [
      "MARK IN|MARK IN-ALAF|MARK OCCLUSION|MARK DAGESH|MODIFIER LETTER EPENTHETIC YUT",
      "MARK EPENTHETIC YUT"]⟩,
    ⟨0x81c, "SAMARITAN VOWEL SIGN ", ["LONG E|E|OVERLONG AA|LONG AA|AA|OVERLONG A|LONG A|A"]⟩,
    ⟨0x824, "SAMARITAN ", [
      "MODIFIER LETTER SHORT A|VOWEL SIGN SHORT A|VOWEL SIGN LONG U|VOWEL SIGN U",
      "MODIFIER LETTER I|VOWEL SIGN LONG I|VOWEL SIGN I|VOWEL SIGN O|VOWEL SIGN SUKUN",
      "MARK NEQUDAA"]⟩,
    ⟨0x830, "SAMARITAN PUNCTUATION ", ["NEQUDAA|AFSAAQ|ANGED|BAU|ATMAAU|SHIYYAALAA"]⟩,
    ⟨0x836, "", ["SAMARITAN ABBREVIATION MARK"]⟩,
    ⟨0x837, "SAMARITAN PUNCTUATION ", [
      "MELODIC QITSA|ZIQAA|QITSA|ZAEF|TURU|ARKAANU|SOF MASHFAAT|ANNAAU"]⟩,
    ⟨0x840, "MANDAIC LETTER ", [
      "HALQA|AB|AG|AD|AH|USHENNA|AZ|IT|ATT|AKSA|AK|AL|AM|AN|AS|IN|AP|ASZ|AQ|AR|ASH|AT|DUSHENNA",
      "KAD|AIN"]⟩,
    ⟨0x859, "MANDAIC ", ["AFFRICATION MARK|VOCALIZATION MARK|GEMINATION MARK"]⟩,
    ⟨0x85e, "", ["MANDAIC PUNCTUATION"]⟩,
    ⟨0x860, "SYRIAC LETTER MALAYALAM ", ["NGA|JA|NYA|TTA|NNA|NNNA|BHA|RA|LLA|LLLA|SSA"]⟩,
    ⟨0x870, "ARABIC LETTER ALEF WITH ", [
      "ATTACHED FATHA|ATTACHED TOP RIGHT FATHA|RIGHT MIDDLE STROKE|LEFT MIDDLE STROKE",
      "ATTACHED KASRA|ATTACHED BOTTOM RIGHT KASRA|ATTACHED ROUND DOT ABOVE",
      "ATTACHED RIGHT ROUND DOT|ATTACHED LEFT ROUND DOT|ATTACHED ROUND DOT BELOW|DOT ABOVE",
      "ATTACHED TOP RIGHT FATHA AND DOT ABOVE|RIGHT MIDDLE STROKE AND DOT ABOVE",
      "ATTACHED BOTTOM RIGHT KASRA AND DOT ABOVE|ATTACHED TOP RIGHT FATHA AND LEFT RING",
      "RIGHT MIDDLE STROKE AND LEFT RING|ATTACHED BOTTOM RIGHT KASRA AND LEFT RING",
      "ATTACHED RIGHT HAMZA|ATTACHED LEFT HAMZA"]⟩,
    ⟨0x883, "ARABIC ", [
      "TATWEEL WITH OVERSTRUCK HAMZA|TATWEEL WITH OVERSTRUCK WAW|TATWEEL WITH TWO DOTS BELOW",
      "LETTER THIN YEH|BASELINE ROUND DOT|RAISED ROUND DOT|LETTER NOON WITH INVERTED SMALL V",
      "LETTER HAH WITH INVERTED SMALL V BELOW|LETTER TAH WITH DOT BELOW",
      "LETTER TAH WITH THREE DOTS BELOW|LETTER KEHEH WITH TWO DOTS VERTICALLY BELOW",
      "VERTICAL TAIL"]⟩,
    ⟨0x890, "ARABIC ", ["POUND MARK ABOVE|PIASTRE MARK ABOVE"]⟩,
    ⟨0x898, "ARABIC ", [
      "SMALL HIGH WORD AL-JUZ|SMALL LOW WORD ISHMAAM|SMALL LOW WORD IMAALA",
      "SMALL LOW WORD TASHEEL|MADDA WAAJIB|SUPERSCRIPT ALEF MOKHASSAS|DOUBLED MADDA",
      "HALF MADDA OVER MADDA"]⟩,
    ⟨0x8a0, "ARABIC LETTER ", [
      "BEH WITH SMALL V BELOW|BEH WITH HAMZA ABOVE|JEEM WITH TWO DOTS ABOVE",
      "TAH WITH TWO DOTS ABOVE|FEH WITH DOT BELOW AND THREE DOTS ABOVE|QAF WITH DOT BELOW",
      "LAM WITH DOUBLE BAR|MEEM WITH THREE DOTS ABOVE|YEH WITH TWO DOTS BELOW AND HAMZA ABOVE",
      "YEH WITH TWO DOTS BELOW AND DOT ABOVE|REH WITH LOOP|WAW WITH DOT WITHIN|ROHINGYA YEH",
      "LOW ALEF|DAL WITH THREE DOTS BELOW|SAD WITH THREE DOTS BELOW|GAF WITH INVERTED STROKE",
      "STRAIGHT WAW|ZAIN WITH INVERTED V ABOVE|AIN WITH THREE DOTS BELOW|KAF WITH DOT BELOW",
      "QAF WITH DOT BELOW AND NO DOTS ABOVE|BEH WITH SMALL MEEM ABOVE|PEH WITH SMALL MEEM ABOVE",
      "TEH WITH SMALL TEH ABOVE|REH WITH SMALL NOON ABOVE",
      "YEH WITH TWO DOTS BELOW AND SMALL NOON ABOVE|AFRICAN FEH|AFRICAN QAF|AFRICAN NOON",
      "PEH WITH SMALL V|TEH WITH SMALL V|TTEH WITH SMALL V|TCHEH WITH SMALL V|KEHEH WITH SMALL V",
      "GHAIN WITH THREE DOTS ABOVE|AFRICAN QAF WITH THREE DOTS ABOVE|JEEM WITH THREE DOTS ABOVE",
      "JEEM WITH THREE DOTS BELOW|LAM WITH SMALL ARABIC LETTER TAH ABOVE|GRAF"]⟩,
    ⟨0x8c9, "ARABIC ", [
      "SMALL FARSI YEH|SMALL HIGH FARSI YEH|SMALL HIGH YEH BARREE WITH TWO DOTS BELOW",
      "SMALL HIGH WORD SAH|SMALL HIGH ZAH|LARGE ROUND DOT ABOVE|LARGE ROUND DOT BELOW",
      "SUKUN BELOW|LARGE CIRCLE BELOW|LARGE ROUND DOT INSIDE CIRCLE BELOW"]⟩,
    ⟨0x8d3, "ARABIC SMALL ", [
      "LOW WAW|HIGH WORD AR-RUB|HIGH SAD|HIGH AIN|HIGH QAF|HIGH NOON WITH KASRA",
      "LOW NOON WITH KASRA|HIGH WORD ATH-THALATHA|HIGH WORD AS-SAJDA|HIGH WORD AN-NISF",
      "HIGH WORD SAKTA|HIGH WORD QIF|HIGH WORD WAQFA|HIGH FOOTNOTE MARKER|HIGH SIGN SAFHA"]⟩,
    ⟨0x8e2, "ARABIC ", [
      "DISPUTED END OF AYAH|TURNED DAMMA BELOW|CURLY FATHA|CURLY DAMMA|CURLY KASRA",
      "CURLY FATHATAN|CURLY DAMMATAN|CURLY KASRATAN|TONE ONE DOT ABOVE|TONE TWO DOTS ABOVE",
      "TONE LOOP ABOVE|TONE ONE DOT BELOW|TONE TWO DOTS BELOW|TONE LOOP BELOW|OPEN FATHATAN",
      "OPEN DAMMATAN|OPEN KASRATAN|SMALL HIGH WAW|FATHA WITH RING|FATHA WITH DOT ABOVE",
      "KASRA WITH DOT BELOW|LEFT ARROWHEAD ABOVE|RIGHT ARROWHEAD ABOVE|LEFT ARROWHEAD BELOW",
      "RIGHT ARROWHEAD BELOW|DOUBLE RIGHT ARROWHEAD ABOVE|DOUBLE RIGHT ARROWHEAD ABOVE WITH DOT",
      "RIGHT ARROWHEAD ABOVE WITH DOT|DAMMA WITH DOT|MARK SIDEWAYS NOON GHUNNA"]⟩,
    ⟨0x900, "DEVANAGARI SIGN ", ["INVERTED CANDRABINDU|CANDRABINDU|ANUSVARA|VISARGA"]⟩,
    ⟨0x904, "DEVANAGARI LETTER ", [
      "SHORT A|A|AA|I|II|U|UU|VOCALIC R|VOCALIC L|CANDRA E|SHORT E|E|AI|CANDRA O|SHORT O|O|AU|KA",
      "KHA|GA|GHA|NGA|CA|CHA|JA|JHA|NYA|TTA|TTHA|DDA|DDHA|NNA|TA|THA|DA|DHA|NA|NNNA|PA|PHA|BA",
      "BHA|MA|YA|RA|RRA|LA|LLA|LLLA|VA|SHA|SSA|SA|HA"]⟩,
    ⟨0x93a, "DEVANAGARI ", ["VOWEL SIGN OE|VOWEL SIGN OOE|SIGN NUKTA|SIGN AVAGRAHA"]⟩,
    ⟨0x93e, "DEVANAGARI VOWEL SIGN ", [
      "AA|I|II|U|UU|VOCALIC R|VOCALIC RR|CANDRA E|SHORT E|E|AI|CANDRA O|SHORT O|O|AU"]⟩,
    ⟨0x94d, "DEVANAGARI ", [
      "SIGN VIRAMA|VOWEL SIGN PRISHTHAMATRA E|VOWEL SIGN AW|OM|STRESS SIGN UDATTA",
      "STRESS SIGN ANUDATTA|GRAVE ACCENT|ACUTE ACCENT|VOWEL SIGN CANDRA LONG E|VOWEL SIGN UE",
      "VOWEL SIGN UUE|LETTER QA|LETTER KHHA|LETTER GHHA|LETTER ZA|LETTER DDDHA|LETTER RHA",
      "LETTER FA|LETTER YYA|LETTER VOCALIC RR|LETTER VOCALIC LL|VOWEL SIGN VOCALIC L",
      "VOWEL SIGN VOCALIC LL|DANDA|DOUBLE DANDA|DIGIT ZERO|DIGIT ONE|DIGIT TWO|DIGIT THREE",
      "DIGIT FOUR|DIGIT FIVE|DIGIT SIX|DIGIT SEVEN|DIGIT EIGHT|DIGIT NINE|ABBREVIATION SIGN",
      "SIGN HIGH SPACING DOT"]⟩,
    ⟨0x972, "DEVANAGARI LETTER ", [
      "CANDRA A|OE|OOE|AW|UE|UUE|MARWARI DDA|ZHA|HEAVY YA|GGA|JJA|GLOTTAL STOP|DDDA|BBA"]⟩,
    ⟨0x980, "BENGALI ", ["ANJI|SIGN CANDRABINDU|SIGN ANUSVARA|SIGN VISARGA"]⟩,
    ⟨0x985, "BENGALI LETTER ", ["A|AA|I|II|U|UU|VOCALIC R|VOCALIC L"]⟩,
    ⟨0x98f, "BENGALI LETTER ", ["E|AI"]⟩,
    ⟨0x993, "BENGALI LETTER ", [
      "O|AU|KA|KHA|GA|GHA|NGA|CA|CHA|JA|JHA|NYA|TTA|TTHA|DDA|DDHA|NNA|TA|THA|DA|DHA|NA"]⟩,
    ⟨0x9aa, "BENGALI LETTER ", ["PA|PHA|BA|BHA|MA|YA|RA"]⟩, ⟨0x9b2, "", ["BENGALI LETTER LA"]⟩,
    ⟨0x9b6, "BENGALI LETTER ", ["SHA|SSA|SA|HA"]⟩, ⟨0x9bc, "BENGALI SIGN ", ["NUKTA|AVAGRAHA"]⟩,
    ⟨0x9be, "BENGALI VOWEL SIGN ", ["AA|I|II|U|UU|VOCALIC R|VOCALIC RR"]⟩,
    ⟨0x9c7, "BENGALI VOWEL SIGN ", ["E|AI"]⟩,
    ⟨0x9cb, "BENGALI ", ["VOWEL SIGN O|VOWEL SIGN AU|SIGN VIRAMA|LETTER KHANDA TA"]⟩,
    ⟨0x9d7, "", ["BENGALI AU LENGTH MARK"]⟩, ⟨0x9dc, "BENGALI LETTER ", ["RRA|RHA"]⟩,
    ⟨0x9df, "BENGALI ", [
      "LETTER YYA|LETTER VOCALIC RR|LETTER VOCALIC LL|VOWEL SIGN VOCALIC L|VOWEL SIGN VOCALIC LL"]⟩,
    ⟨0x9e6, "BENGALI DIGIT ", ["ZERO|ONE|TWO|THREE|FOUR|FIVE|SIX|SEVEN|EIGHT|NINE"]⟩,
    ⟨0x9f0, "BENGALI ", [
      "LETTER RA WITH MIDDLE DIAGONAL|LETTER RA WITH LOWER DIAGONAL|RUPEE MARK|RUPEE SIGN"]⟩,
    ⟨0x9f4, "BENGALI CURRENCY NUMERATOR ", ["ONE|TWO|THREE|FOUR|ONE LESS THAN THE DENOMINATOR"]⟩,
    ⟨0x9f9, "BENGALI ", [
      "CURRENCY DENOMINATOR SIXTEEN|ISSHAR|GANDA MARK|LETTER VEDIC ANUSVARA|ABBREVIATION SIGN",
      "SANDHI MARK"]⟩,
    ⟨0xa01, "GURMUKHI SIGN ", ["ADAK BINDI|BINDI|VISARGA"]⟩,
    ⟨0xa05, "GURMUKHI LETTER ", ["A|AA|I|II|U|UU"]⟩, ⟨0xa0f, "GURMUKHI LETTER ", ["EE|AI"]⟩,
    ⟨0xa13, "GURMUKHI LETTER ", [
      "OO|AU|KA|KHA|GA|GHA|NGA|CA|CHA|JA|JHA|NYA|TTA|TTHA|DDA|DDHA|NNA|TA|THA|DA|DHA|NA"]⟩,
    ⟨0xa2a, "GURMUKHI LETTER ", ["PA|PHA|BA|BHA|MA|YA|RA"]⟩,
    ⟨0xa32, "GURMUKHI LETTER ", ["LA|LLA"]⟩, ⟨0xa35, "GURMUKHI LETTER ", ["VA|SHA"]⟩,
    ⟨0xa38, "GURMUKHI LETTER ", ["SA|HA"]⟩, ⟨0xa3c, "", ["GURMUKHI SIGN NUKTA"]⟩,
    ⟨0xa3e, "GURMUKHI VOWEL SIGN ", ["AA|I|II|U|UU"]⟩, ⟨0xa47, "GURMUKHI VOWEL SIGN ", ["EE|AI"]⟩,
    ⟨0xa4b, "GURMUKHI ", ["VOWEL SIGN OO|VOWEL SIGN AU|SIGN VIRAMA"]⟩,
    ⟨0xa51, "", ["GURMUKHI SIGN UDAAT"]⟩, ⟨0xa59, "GURMUKHI LETTER ", ["KHHA|GHHA|ZA|RRA"]⟩,
    ⟨0xa5e, "", ["GURMUKHI LETTER FA"]⟩,
    ⟨0xa66, "GURMUKHI DIGIT ", ["ZERO|ONE|TWO|THREE|FOUR|FIVE|SIX|SEVEN|EIGHT|NINE"]⟩,
    ⟨0xa70, "GURMUKHI ", ["TIPPI|ADDAK|IRI|URA|EK ONKAR|SIGN YAKASH|ABBREVIATION SIGN"]⟩,
    ⟨0xa81, "GUJARATI SIGN ", ["CANDRABINDU|ANUSVARA|VISARGA"]⟩,
    ⟨0xa85, "GUJARATI LETTER ", ["A|AA|I|II|U|UU|VOCALIC R|VOCALIC L"]⟩,
    ⟨0xa8d, "", ["GUJARATI VOWEL CANDRA E"]⟩,
    ⟨0xa8f, "GUJARATI ", ["LETTER E|LETTER AI|VOWEL CANDRA O"]⟩,
    ⟨0xa93, "GUJARATI LETTER ", [
      "O|AU|KA|KHA|GA|GHA|NGA|CA|CHA|JA|JHA|NYA|TTA|TTHA|DDA|DDHA|NNA|TA|THA|DA|DHA|NA"]⟩,
    ⟨0xaaa, "GUJARATI LETTER ", ["PA|PHA|BA|BHA|MA|YA|RA"]⟩,
    ⟨0xab2, "GUJARATI LETTER ", ["LA|LLA"]⟩, ⟨0xab5, "GUJARATI LETTER ", ["VA|SHA|SSA|SA|HA"]⟩,
    ⟨0xabc, "GUJARATI SIGN ", ["NUKTA|AVAGRAHA"]⟩,
    ⟨0xabe, "GUJARATI VOWEL SIGN ", ["AA|I|II|U|UU|VOCALIC R|VOCALIC RR|CANDRA E"]⟩,
    ⟨0xac7, "GUJARATI VOWEL SIGN ", ["E|AI|CANDRA O"]⟩,
    ⟨0xacb, "GUJARATI ", ["VOWEL SIGN O|VOWEL SIGN AU|SIGN VIRAMA"]⟩, ⟨0xad0, "", ["GUJARATI OM"]⟩,
    ⟨0xae0, "GUJARATI ", [
      "LETTER VOCALIC RR|LETTER VOCALIC LL|VOWEL SIGN VOCALIC L|VOWEL SIGN VOCALIC LL"]⟩,
    ⟨0xae6, "GUJARATI DIGIT ", ["ZERO|ONE|TWO|THREE|FOUR|FIVE|SIX|SEVEN|EIGHT|NINE"]⟩,
    ⟨0xaf0, "GUJARATI ", ["ABBREVIATION SIGN|RUPEE SIGN"]⟩,
    ⟨0xaf9, "GUJARATI ", [
      "LETTER ZHA|SIGN SUKUN|SIGN SHADDA|SIGN MADDAH|SIGN THREE-DOT NUKTA ABOVE",
      "SIGN CIRCLE NUKTA ABOVE|SIGN TWO-CIRCLE NUKTA ABOVE"]⟩,
    ⟨0xb01, "ORIYA SIGN ", ["CANDRABINDU|ANUSVARA|VISARGA"]⟩,
    ⟨0xb05, "ORIYA LETTER ", ["A|AA|I|II|U|UU|VOCALIC R|VOCALIC L"]⟩,
    ⟨0xb0f, "ORIYA LETTER ", ["E|AI"]⟩,
    ⟨0xb13, "ORIYA LETTER ", [
      "O|AU|KA|KHA|GA|GHA|NGA|CA|CHA|JA|JHA|NYA|TTA|TTHA|DDA|DDHA|NNA|TA|THA|DA|DHA|NA"]⟩,
    ⟨0xb2a, "ORIYA LETTER ", ["PA|PHA|BA|BHA|MA|YA|RA"]⟩, ⟨0xb32, "ORIYA LETTER ", ["LA|LLA"]⟩,
    ⟨0xb35, "ORIYA LETTER ", ["VA|SHA|SSA|SA|HA"]⟩, ⟨0xb3c, "ORIYA SIGN ", ["NUKTA|AVAGRAHA"]⟩,
    ⟨0xb3e, "ORIYA VOWEL SIGN ", ["AA|I|II|U|UU|VOCALIC R|VOCALIC RR"]⟩,
    ⟨0xb47, "ORIYA VOWEL SIGN ", ["E|AI"]⟩,
    ⟨0xb4b, "ORIYA ", ["VOWEL SIGN O|VOWEL SIGN AU|SIGN VIRAMA"]⟩,
    ⟨0xb55, "ORIYA ", ["SIGN OVERLINE|AI LENGTH MARK|AU LENGTH MARK"]⟩,
    ⟨0xb5c, "ORIYA LETTER ", ["RRA|RHA"]⟩,
    ⟨0xb5f, "ORIYA ", [
      "LETTER YYA|LETTER VOCALIC RR|LETTER VOCALIC LL|VOWEL SIGN VOCALIC L|VOWEL SIGN VOCALIC LL"]⟩,
    ⟨0xb66, "ORIYA DIGIT ", ["ZERO|ONE|TWO|THREE|FOUR|FIVE|SIX|SEVEN|EIGHT|NINE"]⟩,
    ⟨0xb70, "ORIYA ", ["ISSHAR|LETTER WA"]⟩,
    ⟨0xb72, "ORIYA FRACTION ", [
      "ONE QUARTER|ONE HALF|THREE QUARTERS|ONE SIXTEENTH|ONE EIGHTH|THREE SIXTEENTHS"]⟩,
    ⟨0xb82, "TAMIL SIGN ", ["ANUSVARA|VISARGA"]⟩, ⟨0xb85, "TAMIL LETTER ", ["A|AA|I|II|U|UU"]⟩,
    ⟨0xb8e, "TAMIL LETTER ", ["E|EE|AI"]⟩, ⟨0xb92, "TAMIL LETTER ", ["O|OO|AU|KA"]⟩,
    ⟨0xb99, "TAMIL LETTER ", ["NGA|CA"]⟩, ⟨0xb9c, "", ["TAMIL LETTER JA"]⟩,
    ⟨0xb9e, "TAMIL LETTER ", ["NYA|TTA"]⟩, ⟨0xba3, "TAMIL LETTER ", ["NNA|TA"]⟩,
    ⟨0xba8, "TAMIL LETTER ", ["NA|NNNA|PA"]⟩,
    ⟨0xbae, "TAMIL LETTER ", ["MA|YA|RA|RRA|LA|LLA|LLLA|VA|SHA|SSA|SA|HA"]⟩,
    ⟨0xbbe, "TAMIL VOWEL SIGN ", ["AA|I|II|U|UU"]⟩, ⟨0xbc6, "TAMIL VOWEL SIGN ", ["E|EE|AI"]⟩,
    ⟨0xbca, "TAMIL ", ["VOWEL SIGN O|VOWEL SIGN OO|VOWEL SIGN AU|SIGN VIRAMA"]⟩,
    ⟨0xbd0, "", ["TAMIL OM"]⟩, ⟨0xbd7, "", ["TAMIL AU LENGTH MARK"]⟩,
    ⟨0xbe6, "TAMIL DIGIT ", ["ZERO|ONE|TWO|THREE|FOUR|FIVE|SIX|SEVEN|EIGHT|NINE"]⟩,
    ⟨0xbf0, "TAMIL ", [
      "NUMBER TEN|NUMBER ONE HUNDRED|NUMBER ONE THOUSAND|DAY SIGN|MONTH SIGN|YEAR SIGN",
      "DEBIT SIGN|CREDIT SIGN|AS ABOVE SIGN|RUPEE SIGN|NUMBER SIGN"]⟩,
    ⟨0xc00, "TELUGU SIGN ", [
      "COMBINING CANDRABINDU ABOVE|CANDRABINDU|ANUSVARA|VISARGA|COMBINING ANUSVARA ABOVE"]⟩,
    ⟨0xc05, "TELUGU LETTER ", ["A|AA|I|II|U|UU|VOCALIC R|VOCALIC L"]⟩,
    ⟨0xc0e, "TELUGU LETTER ", ["E|EE|AI"]⟩,
    ⟨0xc12, "TELUGU LETTER ", [
      "O|OO|AU|KA|KHA|GA|GHA|NGA|CA|CHA|JA|JHA|NYA|TTA|TTHA|DDA|DDHA|NNA|TA|THA|DA|DHA|NA"]⟩,
    ⟨0xc2a, "TELUGU LETTER ", ["PA|PHA|BA|BHA|MA|YA|RA|RRA|LA|LLA|LLLA|VA|SHA|SSA|SA|HA"]⟩,
    ⟨0xc3c, "TELUGU SIGN ", ["NUKTA|AVAGRAHA"]⟩,
    ⟨0xc3e, "TELUGU VOWEL SIGN ", ["AA|I|II|U|UU|VOCALIC R|VOCALIC RR"]⟩,
    ⟨0xc46, "TELUGU VOWEL SIGN ", ["E|EE|AI"]⟩,
    ⟨0xc4a, "TELUGU ", ["VOWEL SIGN O|VOWEL SIGN OO|VOWEL SIGN AU|SIGN VIRAMA"]⟩,
    ⟨0xc55, "TELUGU ", ["LENGTH MARK|AI LENGTH MARK"]⟩, ⟨0xc58, "TELUGU LETTER ", ["TSA|DZA|RRRA"]⟩,
    ⟨0xc5d, "", ["TELUGU LETTER NAKAARA POLLU"]⟩,
    ⟨0xc60, "TELUGU ", [
      "LETTER VOCALIC RR|LETTER VOCALIC LL|VOWEL SIGN VOCALIC L|VOWEL SIGN VOCALIC LL"]⟩,
    ⟨0xc66, "TELUGU DIGIT ", ["ZERO|ONE|TWO|THREE|FOUR|FIVE|SIX|SEVEN|EIGHT|NINE"]⟩,
    ⟨0xc77, "", ["TELUGU SIGN SIDDHAM"]⟩,
    ⟨0xc78, "TELUGU FRACTION DIGIT ", [
      "ZERO FOR ODD POWERS OF FOUR|ONE FOR ODD POWERS OF FOUR|TWO FOR ODD POWERS OF FOUR",
      "THREE FOR ODD POWERS OF FOUR|ONE FOR EVEN POWERS OF FOUR|TWO FOR EVEN POWERS OF FOUR",
      "THREE FOR EVEN POWERS OF FOUR"]⟩,
    ⟨0xc7f, "", ["TELUGU SIGN TUUMU"]⟩,
    ⟨0xc80, "KANNADA SIGN ", ["SPACING CANDRABINDU|CANDRABINDU|ANUSVARA|VISARGA|SIDDHAM"]⟩,
    ⟨0xc85, "KANNADA LETTER ", ["A|AA|I|II|U|UU|VOCALIC R|VOCALIC L"]⟩,
    ⟨0xc8e, "KANNADA LETTER ", ["E|EE|AI"]⟩,
    ⟨0xc92, "KANNADA LETTER ", [
      "O|OO|AU|KA|KHA|GA|GHA|NGA|CA|CHA|JA|JHA|NYA|TTA|TTHA|DDA|DDHA|NNA|TA|THA|DA|DHA|NA"]⟩,
    ⟨0xcaa, "KANNADA LETTER ", ["PA|PHA|BA|BHA|MA|YA|RA|RRA|LA|LLA"]⟩,
    ⟨0xcb5, "KANNADA LETTER ", ["VA|SHA|SSA|SA|HA"]⟩, ⟨0xcbc, "KANNADA SIGN ", ["NUKTA|AVAGRAHA"]⟩,
    ⟨0xcbe, "KANNADA VOWEL SIGN ", ["AA|I|II|U|UU|VOCALIC R|VOCALIC RR"]⟩,
    ⟨0xcc6, "KANNADA VOWEL SIGN ", ["E|EE|AI"]⟩,
    ⟨0xcca, "KANNADA ", ["VOWEL SIGN O|VOWEL SIGN OO|VOWEL SIGN AU|SIGN VIRAMA"]⟩,
    ⟨0xcd5, "KANNADA ", ["LENGTH MARK|AI LENGTH MARK"]⟩,
    ⟨0xcdd, "KANNADA LETTER ", ["NAKAARA POLLU|FA"]⟩,
    ⟨0xce0, "KANNADA ", [
      "LETTER VOCALIC RR|LETTER VOCALIC LL|VOWEL SIGN VOCALIC L|VOWEL SIGN VOCALIC LL"]⟩,
    ⟨0xce6, "KANNADA DIGIT ", ["ZERO|ONE|TWO|THREE|FOUR|FIVE|SIX|SEVEN|EIGHT|NINE"]⟩,
    ⟨0xcf1, "KANNADA SIGN ", ["JIHVAMULIYA|UPADHMANIYA"]⟩,
    ⟨0xd00, "MALAYALAM SIGN ", ["COMBINING ANUSVARA ABOVE|CANDRABINDU|ANUSVARA|VISARGA"]⟩,
    ⟨0xd04, "MALAYALAM LETTER ", ["VEDIC ANUSVARA|A|AA|I|II|U|UU|VOCALIC R|VOCALIC L"]⟩,
    ⟨0xd0e, "MALAYALAM LETTER ", ["E|EE|AI"]⟩,
    ⟨0xd12, "MALAYALAM LETTER ", [
      "O|OO|AU|KA|KHA|GA|GHA|NGA|CA|CHA|JA|JHA|NYA|TTA|TTHA|DDA|DDHA|NNA|TA|THA|DA|DHA|NA|NNNA",
      "PA|PHA|BA|BHA|MA|YA|RA|RRA|LA|LLA|LLLA|VA|SHA|SSA|SA|HA|TTTA"]⟩,
    ⟨0xd3b, "MALAYALAM SIGN ", ["VERTICAL BAR VIRAMA|CIRCULAR VIRAMA|AVAGRAHA"]⟩,
    ⟨0xd3e, "MALAYALAM VOWEL SIGN ", ["AA|I|II|U|UU|VOCALIC R|VOCALIC RR"]⟩,
    ⟨0xd46, "MALAYALAM VOWEL SIGN ", ["E|EE|AI"]⟩,
    ⟨0xd4a, "MALAYALAM ", [
      "VOWEL SIGN O|VOWEL SIGN OO|VOWEL SIGN AU|SIGN VIRAMA|LETTER DOT REPH|SIGN PARA"]⟩,
    ⟨0xd54, "MALAYALAM ", [
      "LETTER CHILLU M|LETTER CHILLU Y|LETTER CHILLU LLL|AU LENGTH MARK",
      "FRACTION ONE ONE-HUNDRED-AND-SIXTIETH|FRACTION ONE FORTIETH|FRACTION THREE EIGHTIETHS",
      "FRACTION ONE TWENTIETH|FRACTION ONE TENTH|FRACTION THREE TWENTIETHS|FRACTION ONE FIFTH",
      "LETTER ARCHAIC II|LETTER VOCALIC RR|LETTER VOCALIC LL|VOWEL SIGN VOCALIC L",
      "VOWEL SIGN VOCALIC LL"]⟩,
    ⟨0xd66, "MALAYALAM DIGIT ", ["ZERO|ONE|TWO|THREE|FOUR|FIVE|SIX|SEVEN|EIGHT|NINE"]⟩,
    ⟨0xd70, "MALAYALAM ", [
      "NUMBER TEN|NUMBER ONE HUNDRED|NUMBER ONE THOUSAND|FRACTION ONE QUARTER|FRACTION ONE HALF",
      "FRACTION THREE QUARTERS|FRACTION ONE SIXTEENTH|FRACTION ONE EIGHTH",
      "FRACTION THREE SIXTEENTHS|DATE MARK"]⟩,
    ⟨0xd7a, "MALAYALAM LETTER CHILLU ", ["NN|N|RR|L|LL|K"]⟩,
    ⟨0xd81, "SINHALA SIGN ", ["CANDRABINDU|ANUSVARAYA|VISARGAYA"]⟩,
    ⟨0xd85, "SINHALA LETTER ", [
      "AYANNA|AAYANNA|AEYANNA|AEEYANNA|IYANNA|IIYANNA|UYANNA|UUYANNA|IRUYANNA|IRUUYANNA|ILUYANNA",
      "ILUUYANNA|EYANNA|EEYANNA|AIYANNA|OYANNA|OOYANNA|AUYANNA"]⟩,
    ⟨0xd9a, "SINHALA LETTER ", [
      "ALPAPRAANA KAYANNA|MAHAAPRAANA KAYANNA|ALPAPRAANA GAYANNA|MAHAAPRAANA GAYANNA",
      "KANTAJA NAASIKYAYA|SANYAKA GAYANNA|ALPAPRAANA CAYANNA|MAHAAPRAANA CAYANNA",
      "ALPAPRAANA JAYANNA|MAHAAPRAANA JAYANNA|TAALUJA NAASIKYAYA|TAALUJA SANYOOGA NAAKSIKYAYA",
      "SANYAKA JAYANNA|ALPAPRAANA TTAYANNA|MAHAAPRAANA TTAYANNA|ALPAPRAANA DDAYANNA",
      "MAHAAPRAANA DDAYANNA|MUURDHAJA NAYANNA|SANYAKA DDAYANNA|ALPAPRAANA TAYANNA",
      "MAHAAPRAANA TAYANNA|ALPAPRAANA DAYANNA|MAHAAPRAANA DAYANNA|DANTAJA NAYANNA"]⟩,
    ⟨0xdb3, "SINHALA LETTER ", [
      "SANYAKA DAYANNA|ALPAPRAANA PAYANNA|MAHAAPRAANA PAYANNA|ALPAPRAANA BAYANNA",
      "MAHAAPRAANA BAYANNA|MAYANNA|AMBA BAYANNA|YAYANNA|RAYANNA"]⟩,
    ⟨0xdbd, "", ["SINHALA LETTER DANTAJA LAYANNA"]⟩,
    ⟨0xdc0, "SINHALA LETTER ", [
      "VAYANNA|TAALUJA SAYANNA|MUURDHAJA SAYANNA|DANTAJA SAYANNA|HAYANNA|MUURDHAJA LAYANNA",
      "FAYANNA"]⟩,
    ⟨0xdca, "", ["SINHALA SIGN AL-LAKUNA"]⟩,
    ⟨0xdcf, "SINHALA VOWEL SIGN ", [
      "AELA-PILLA|KETTI AEDA-PILLA|DIGA AEDA-PILLA|KETTI IS-PILLA|DIGA IS-PILLA|KETTI PAA-PILLA"]⟩,
    ⟨0xdd6, "", ["SINHALA VOWEL SIGN DIGA PAA-PILLA"]⟩,
    ⟨0xdd8, "SINHALA VOWEL SIGN ", [
      "GAETTA-PILLA|KOMBUVA|DIGA KOMBUVA|KOMBU DEKA|KOMBUVA HAA AELA-PILLA",
      "KOMBUVA HAA DIGA AELA-PILLA|KOMBUVA HAA GAYANUKITTA|GAYANUKITTA"]⟩,
    ⟨0xde6, "SINHALA LITH DIGIT ", ["ZERO|ONE|TWO|THREE|FOUR|FIVE|SIX|SEVEN|EIGHT|NINE"]⟩,
    ⟨0xdf2, "SINHALA ", [
      "VOWEL SIGN DIGA GAETTA-PILLA|VOWEL SIGN DIGA GAYANUKITTA|PUNCTUATION KUNDDALIYA"]⟩,
    ⟨0xe01, "THAI CHARACTER ", [
      "KO KAI|KHO KHAI|KHO KHUAT|KHO KHWAI|KHO KHON|KHO RAKHANG|NGO NGU|CHO CHAN|CHO CHING",
      "CHO CHANG|SO SO|CHO CHOE|YO YING|DO CHADA|TO PATAK|THO THAN|THO NANGMONTHO|THO PHUTHAO",
      "NO NEN|DO DEK|TO TAO|THO THUNG|THO THAHAN|THO THONG|NO NU|BO BAIMAI|PO PLA|PHO PHUNG",
      "FO FA|PHO PHAN|FO FAN|PHO SAMPHAO|MO MA|YO YAK|RO RUA|RU|LO LING|LU|WO WAEN|SO SALA",
      "SO RUSI|SO SUA|HO HIP|LO CHULA|O ANG|HO NOKHUK|PAIYANNOI|SARA A|MAI HAN-AKAT|SARA AA",
      "SARA AM|SARA I|SARA II|SARA UE|SARA UEE|SARA U|SARA UU|PHINTHU"]⟩,
    ⟨0xe3f, "", ["THAI CURRENCY SYMBOL BAHT"]⟩,
    ⟨0xe40, "THAI CHARACTER ", [
      "SARA E|SARA AE|SARA O|SARA AI MAIMUAN|SARA AI MAIMALAI|LAKKHANGYAO|MAIYAMOK|MAITAIKHU",
      "MAI EK|MAI THO|MAI TRI|MAI CHATTAWA|THANTHAKHAT|NIKHAHIT|YAMAKKAN|FONGMAN"]⟩,
    ⟨0xe50, "THAI DIGIT ", ["ZERO|ONE|TWO|THREE|FOUR|FIVE|SIX|SEVEN|EIGHT|NINE"]⟩,
    ⟨0xe5a, "THAI CHARACTER ", ["ANGKHANKHU|KHOMUT"]⟩, ⟨0xe81, "LAO LETTER ", ["KO|KHO SUNG"]⟩,
    ⟨0xe84, "", ["LAO LETTER KHO TAM"]⟩,
    ⟨0xe86, "LAO LETTER ", ["PALI GHA|NGO|CO|PALI CHA|SO TAM"]⟩,
    ⟨0xe8c, "LAO LETTER ", [
      "PALI JHA|NYO|PALI NYA|PALI TTA|PALI TTHA|PALI DDA|PALI DDHA|PALI NNA|DO|TO|THO SUNG",
      "THO TAM|PALI DHA|NO|BO|PO|PHO SUNG|FO TAM|PHO TAM|FO SUNG|PALI BHA|MO|YO|LO LING"]⟩,
    ⟨0xea5, "", ["LAO LETTER LO LOOT"]⟩,
    ⟨0xea7, "LAO LETTER ", ["WO|SANSKRIT SHA|SANSKRIT SSA|SO SUNG|HO SUNG|PALI LLA|O|HO TAM"]⟩,
    ⟨0xeaf, "", ["LAO ELLIPSIS"]⟩,
    ⟨0xeb0, "LAO VOWEL SIGN ", ["A|MAI KAN|AA|AM|I|II|Y|YY|U|UU"]⟩,
    ⟨0xeba, "LAO ", ["SIGN PALI VIRAMA|VOWEL SIGN MAI KON|SEMIVOWEL SIGN LO|SEMIVOWEL SIGN NYO"]⟩,
    ⟨0xec0, "LAO VOWEL SIGN ", ["E|EI|O|AY|AI"]⟩, ⟨0xec6, "", ["LAO KO LA"]⟩,
    ⟨0xec8, "LAO ", [
      "TONE MAI EK|TONE MAI THO|TONE MAI TI|TONE MAI CATAWA|CANCELLATION MARK|NIGGAHITA"]⟩,
    ⟨0xed0, "LAO DIGIT ", ["ZERO|ONE|TWO|THREE|FOUR|FIVE|SIX|SEVEN|EIGHT|NINE"]⟩,
    ⟨0xedc, "LAO ", ["HO NO|HO MO|LETTER KHMU GO|LETTER KHMU NYO"]⟩,
    ⟨0xf00, "", ["TIBETAN SYLLABLE OM"]⟩,
    ⟨0xf01, "TIBETAN MARK ", [
      "GTER YIG MGO TRUNCATED A|GTER YIG MGO -UM RNAM BCAD MA|GTER YIG MGO -UM GTER TSHEG MA",
      "INITIAL YIG MGO MDUN MA|CLOSING YIG MGO SGAB MA|CARET YIG MGO PHUR SHAD MA",
      "YIG MGO TSHEG SHAD MA|SBRUL SHAD|BSKUR YIG MGO|BKA- SHOG YIG MGO|INTERSYLLABIC TSHEG",
      "DELIMITER TSHEG BSTAR|SHAD|NYIS SHAD|TSHEG SHAD|NYIS TSHEG SHAD|RIN CHEN SPUNGS SHAD",
      "RGYA GRAM SHAD|CARET -DZUD RTAGS ME LONG CAN|GTER TSHEG"]⟩,
    ⟨0xf15, "TIBETAN LOGOTYPE SIGN ", ["CHAD RTAGS|LHAG RTAGS"]⟩,
    ⟨0xf17, "TIBETAN ASTROLOGICAL SIGN ", ["SGRA GCAN -CHAR RTAGS|-KHYUD PA|SDONG TSHUGS"]⟩,
    ⟨0xf1a, "TIBETAN SIGN RDEL ", [
      "DKAR GCIG|DKAR GNYIS|DKAR GSUM|NAG GCIG|NAG GNYIS|DKAR RDEL NAG"]⟩,
    ⟨0xf20, "TIBETAN DIGIT ", ["ZERO|ONE|TWO|THREE|FOUR|FIVE|SIX|SEVEN|EIGHT|NINE"]⟩,
    ⟨0xf2a, "TIBETAN DIGIT HALF ", ["ONE|TWO|THREE|FOUR|FIVE|SIX|SEVEN|EIGHT|NINE|ZERO"]⟩,
    ⟨0xf34, "TIBETAN MARK ", [
      "BSDUS RTAGS|NGAS BZUNG NYI ZLA|CARET -DZUD RTAGS BZHI MIG CAN|NGAS BZUNG SGOR RTAGS",
      "CHE MGO|TSA -PHRU|GUG RTAGS GYON|GUG RTAGS GYAS|ANG KHANG GYON|ANG KHANG GYAS"]⟩,
    ⟨0xf3e, "TIBETAN SIGN ", ["YAR TSHES|MAR TSHES"]⟩,
    ⟨0xf40, "TIBETAN LETTER ", ["KA|KHA|GA|GHA|NGA|CA|CHA|JA"]⟩,
    ⟨0xf49, "TIBETAN LETTER ", [
      "NYA|TTA|TTHA|DDA|DDHA|NNA|TA|THA|DA|DHA|NA|PA|PHA|BA|BHA|MA|TSA|TSHA|DZA|DZHA|WA|ZHA|ZA",
      "-A|YA|RA|LA|SHA|SSA|SA|HA|A|KSSA|FIXED-FORM RA|KKA|RRA"]⟩,
    ⟨0xf71, "TIBETAN VOWEL SIGN ", [
      "AA|I|II|U|UU|VOCALIC R|VOCALIC RR|VOCALIC L|VOCALIC LL|E|EE|O|OO"]⟩,
    ⟨0xf7e, "TIBETAN ", [
      "SIGN RJES SU NGA RO|SIGN RNAM BCAD|VOWEL SIGN REVERSED I|VOWEL SIGN REVERSED II",
      "SIGN NYI ZLA NAA DA|SIGN SNA LDAN|MARK HALANTA|MARK PALUTA|SIGN LCI RTAGS|SIGN YANG RTAGS",
      "SIGN LCE TSA CAN|SIGN MCHU CAN|SIGN GRU CAN RGYINGS|SIGN GRU MED RGYINGS",
      "SIGN INVERTED MCHU CAN|SUBJOINED SIGN LCE TSA CAN|SUBJOINED SIGN MCHU CAN",
      "SUBJOINED SIGN INVERTED MCHU CAN"]⟩,
    ⟨0xf90, "TIBETAN SUBJOINED LETTER ", ["KA|KHA|GA|GHA|NGA|CA|CHA|JA"]⟩,
    ⟨0xf99, "TIBETAN SUBJOINED LETTER ", [
      "NYA|TTA|TTHA|DDA|DDHA|NNA|TA|THA|DA|DHA|NA|PA|PHA|BA|BHA|MA|TSA|TSHA|DZA|DZHA|WA|ZHA|ZA",
      "-A|YA|RA|LA|SHA|SSA|SA|HA|A|KSSA|FIXED-FORM WA|FIXED-FORM YA|FIXED-FORM RA"]⟩,
    ⟨0xfbe, "TIBETAN KU RU ", ["KHA|KHA BZHI MIG CAN"]⟩,
    ⟨0xfc0, "TIBETAN CANTILLATION SIGN ", ["HEAVY BEAT|LIGHT BEAT|CANG TE-U|SBUB -CHAL"]⟩,
    ⟨0xfc4, "TIBETAN SYMBOL ", [
      "DRIL BU|RDO RJE|PADMA GDAN|RDO RJE RGYA GRAM|PHUR PA|NOR BU|NOR BU NYIS -KHYIL",
      "NOR BU GSUM -KHYIL|NOR BU BZHI -KHYIL"]⟩,
    ⟨0xfce, "TIBETAN ", [
      "SIGN RDEL NAG RDEL DKAR|SIGN RDEL NAG GSUM|MARK BSKA- SHOG GI MGO RGYAN",
      "MARK MNYAM YIG GI MGO RGYAN|MARK NYIS TSHEG|MARK INITIAL BRDA RNYING YIG MGO MDUN MA",
      "MARK CLOSING BRDA RNYING YIG MGO SGAB MA"]⟩,
    ⟨0xfd5, "", [
      "RIGHT-FACING SVASTI SIGN|LEFT-FACING SVASTI SIGN|RIGHT-FACING SVASTI SIGN WITH DOTS",
      "LEFT-FACING SVASTI SIGN WITH DOTS|TIBETAN MARK LEADING MCHAN RTAGS",
      "TIBETAN MARK TRAILING MCHAN RTAGS"]⟩]

end TaskGraph.Text.CharacterName
