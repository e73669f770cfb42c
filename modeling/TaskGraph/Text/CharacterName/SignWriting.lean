import TaskGraph.Text.CharacterName.Basic
set_option autoImplicit false

/-! Names of characters: the notation of sign languages. -/

namespace TaskGraph.Text.CharacterName

def signWriting : List Run :=
  [⟨0x1d800, "SIGNWRITING ", [
      "HAND-FIST INDEX|HAND-CIRCLE INDEX|HAND-CUP INDEX|HAND-OVAL INDEX|HAND-HINGE INDEX",
      "HAND-ANGLE INDEX|HAND-FIST INDEX BENT|HAND-CIRCLE INDEX BENT",
      "HAND-FIST THUMB UNDER INDEX BENT|HAND-FIST INDEX RAISED KNUCKLE|HAND-FIST INDEX CUPPED",
      "HAND-FIST INDEX HINGED|HAND-FIST INDEX HINGED LOW|HAND-CIRCLE INDEX HINGE",
      "HAND-FIST INDEX MIDDLE|HAND-CIRCLE INDEX MIDDLE"]⟩,
    ⟨0x1d810, "SIGNWRITING HAND-FIST INDEX ", [
      "MIDDLE BENT|MIDDLE RAISED KNUCKLES|MIDDLE HINGED|UP MIDDLE HINGED|HINGED MIDDLE UP",
      "MIDDLE CONJOINED|MIDDLE CONJOINED INDEX BENT|MIDDLE CONJOINED MIDDLE BENT",
      "MIDDLE CONJOINED CUPPED|MIDDLE CONJOINED HINGED|MIDDLE CROSSED"]⟩,
    ⟨0x1d81b, "SIGNWRITING ", [
      "HAND-CIRCLE INDEX MIDDLE CROSSED|HAND-FIST MIDDLE BENT OVER INDEX",
      "HAND-FIST INDEX BENT OVER MIDDLE|HAND-FIST INDEX MIDDLE THUMB",
      "HAND-CIRCLE INDEX MIDDLE THUMB"]⟩,
    ⟨0x1d820, "SIGNWRITING HAND-FIST INDEX ", [
      "MIDDLE STRAIGHT THUMB BENT|MIDDLE BENT THUMB STRAIGHT|MIDDLE THUMB BENT",
      "MIDDLE HINGED SPREAD THUMB SIDE|UP MIDDLE HINGED THUMB SIDE",
      "UP MIDDLE HINGED THUMB CONJOINED|HINGED MIDDLE UP THUMB SIDE",
      "MIDDLE UP SPREAD THUMB FORWARD|MIDDLE THUMB CUPPED|MIDDLE THUMB CIRCLED",
      "MIDDLE THUMB HOOKED|MIDDLE THUMB HINGED"]⟩,
    ⟨0x1d82c, "SIGNWRITING HAND-FIST ", [
      "THUMB BETWEEN INDEX MIDDLE STRAIGHT|INDEX MIDDLE CONJOINED THUMB SIDE",
      "INDEX MIDDLE CONJOINED THUMB SIDE CONJOINED|INDEX MIDDLE CONJOINED THUMB SIDE BENT",
      "MIDDLE THUMB HOOKED INDEX UP|INDEX THUMB HOOKED MIDDLE UP",
      "INDEX MIDDLE CONJOINED HINGED THUMB SIDE|INDEX MIDDLE CROSSED THUMB SIDE",
      "INDEX MIDDLE CONJOINED THUMB FORWARD|INDEX MIDDLE CONJOINED CUPPED THUMB FORWARD",
      "MIDDLE THUMB CUPPED INDEX UP|INDEX THUMB CUPPED MIDDLE UP|MIDDLE THUMB CIRCLED INDEX UP",
      "MIDDLE THUMB CIRCLED INDEX HINGED|INDEX THUMB ANGLED OUT MIDDLE UP",
      "INDEX THUMB ANGLED IN MIDDLE UP|INDEX THUMB CIRCLED MIDDLE UP",
      "INDEX MIDDLE THUMB CONJOINED HINGED|INDEX MIDDLE THUMB ANGLED OUT",
      "INDEX MIDDLE THUMB ANGLED|MIDDLE THUMB ANGLED OUT INDEX UP",
      "MIDDLE THUMB ANGLED OUT INDEX CROSSED|MIDDLE THUMB ANGLED INDEX UP",
      "INDEX THUMB HOOKED MIDDLE HINGED"]⟩,
    ⟨0x1d844, "SIGNWRITING HAND-FLAT FOUR ", [
      "FINGERS|FINGERS BENT|FINGERS HINGED|FINGERS CONJOINED|FINGERS CONJOINED SPLIT"]⟩,
    ⟨0x1d849, "SIGNWRITING ", [
      "HAND-CLAW FOUR FINGERS CONJOINED|HAND-FIST FOUR FINGERS CONJOINED BENT",
      "HAND-HINGE FOUR FINGERS CONJOINED|HAND-FLAT FIVE FINGERS SPREAD",
      "HAND-FLAT HEEL FIVE FINGERS SPREAD|HAND-FLAT FIVE FINGERS SPREAD FOUR BENT",
      "HAND-FLAT HEEL FIVE FINGERS SPREAD FOUR BENT|HAND-FLAT FIVE FINGERS SPREAD BENT",
      "HAND-FLAT HEEL FIVE FINGERS SPREAD BENT|HAND-FLAT FIVE FINGERS SPREAD THUMB FORWARD",
      "HAND-CUP FIVE FINGERS SPREAD|HAND-CUP FIVE FINGERS SPREAD OPEN",
      "HAND-HINGE FIVE FINGERS SPREAD OPEN|HAND-OVAL FIVE FINGERS SPREAD",
      "HAND-FLAT FIVE FINGERS SPREAD HINGED|HAND-FLAT FIVE FINGERS SPREAD HINGED THUMB SIDE",
      "HAND-FLAT FIVE FINGERS SPREAD HINGED NO THUMB|HAND-FLAT"]⟩,
    ⟨0x1d85b, "SIGNWRITING HAND-FLAT ", [
      "BETWEEN PALM FACINGS|HEEL|THUMB SIDE|HEEL THUMB SIDE|THUMB BENT|THUMB FORWARD",
      "SPLIT INDEX THUMB SIDE|SPLIT CENTRE|SPLIT CENTRE THUMB SIDE|SPLIT CENTRE THUMB SIDE BENT",
      "SPLIT LITTLE"]⟩,
    ⟨0x1d866, "SIGNWRITING ", [
      "HAND-CLAW|HAND-CLAW THUMB SIDE|HAND-CLAW NO THUMB|HAND-CLAW THUMB FORWARD",
      "HAND-HOOK CURLICUE|HAND-HOOK|HAND-CUP OPEN|HAND-CUP|HAND-CUP OPEN THUMB SIDE",
      "HAND-CUP THUMB SIDE|HAND-CUP OPEN NO THUMB|HAND-CUP NO THUMB|HAND-CUP OPEN THUMB FORWARD",
      "HAND-CUP THUMB FORWARD|HAND-CURLICUE OPEN|HAND-CURLICUE|HAND-CIRCLE|HAND-OVAL",
      "HAND-OVAL THUMB SIDE|HAND-OVAL NO THUMB|HAND-OVAL THUMB FORWARD|HAND-HINGE OPEN",
      "HAND-HINGE OPEN THUMB FORWARD|HAND-HINGE|HAND-HINGE SMALL|HAND-HINGE OPEN THUMB SIDE",
      "HAND-HINGE THUMB SIDE|HAND-HINGE OPEN NO THUMB|HAND-HINGE NO THUMB",
      "HAND-HINGE THUMB SIDE TOUCHING INDEX|HAND-HINGE THUMB BETWEEN MIDDLE RING|HAND-ANGLE",
      "HAND-FIST INDEX MIDDLE RING|HAND-CIRCLE INDEX MIDDLE RING|HAND-HINGE INDEX MIDDLE RING",
      "HAND-ANGLE INDEX MIDDLE RING|HAND-HINGE LITTLE|HAND-FIST INDEX MIDDLE RING BENT",
      "HAND-FIST INDEX MIDDLE RING CONJOINED|HAND-HINGE INDEX MIDDLE RING CONJOINED",
      "HAND-FIST LITTLE DOWN|HAND-FIST LITTLE DOWN RIPPLE STRAIGHT",
      "HAND-FIST LITTLE DOWN RIPPLE CURVED|HAND-FIST LITTLE DOWN OTHERS CIRCLED",
      "HAND-FIST LITTLE UP|HAND-FIST THUMB UNDER LITTLE UP|HAND-CIRCLE LITTLE UP",
      "HAND-OVAL LITTLE UP|HAND-ANGLE LITTLE UP|HAND-FIST LITTLE RAISED KNUCKLE",
      "HAND-FIST LITTLE BENT|HAND-FIST LITTLE TOUCHES THUMB|HAND-FIST LITTLE THUMB",
      "HAND-HINGE LITTLE THUMB|HAND-FIST LITTLE INDEX THUMB|HAND-HINGE LITTLE INDEX THUMB",
      "HAND-ANGLE LITTLE INDEX THUMB INDEX THUMB OUT|HAND-ANGLE LITTLE INDEX THUMB INDEX THUMB",
      "HAND-FIST LITTLE INDEX|HAND-CIRCLE LITTLE INDEX|HAND-HINGE LITTLE INDEX",
      "HAND-ANGLE LITTLE INDEX|HAND-FIST INDEX MIDDLE LITTLE|HAND-CIRCLE INDEX MIDDLE LITTLE",
      "HAND-HINGE INDEX MIDDLE LITTLE|HAND-HINGE RING|HAND-ANGLE INDEX MIDDLE LITTLE",
      "HAND-FIST INDEX MIDDLE CROSS LITTLE|HAND-CIRCLE INDEX MIDDLE CROSS LITTLE",
      "HAND-FIST RING DOWN|HAND-HINGE RING DOWN INDEX THUMB HOOK MIDDLE",
      "HAND-ANGLE RING DOWN MIDDLE THUMB INDEX CROSS|HAND-FIST RING UP",
      "HAND-FIST RING RAISED KNUCKLE|HAND-FIST RING LITTLE|HAND-CIRCLE RING LITTLE",
      "HAND-OVAL RING LITTLE|HAND-ANGLE RING LITTLE|HAND-FIST RING MIDDLE",
      "HAND-FIST RING MIDDLE CONJOINED|HAND-FIST RING MIDDLE RAISED KNUCKLES",
      "HAND-FIST RING INDEX|HAND-FIST RING THUMB|HAND-HOOK RING THUMB",
      "HAND-FIST INDEX RING LITTLE|HAND-CIRCLE INDEX RING LITTLE",
      "HAND-CURLICUE INDEX RING LITTLE ON|HAND-HOOK INDEX RING LITTLE OUT",
      "HAND-HOOK INDEX RING LITTLE IN|HAND-HOOK INDEX RING LITTLE UNDER",
      "HAND-CUP INDEX RING LITTLE|HAND-HINGE INDEX RING LITTLE|HAND-ANGLE INDEX RING LITTLE OUT",
      "HAND-ANGLE INDEX RING LITTLE|HAND-FIST MIDDLE DOWN|HAND-HINGE MIDDLE|HAND-FIST MIDDLE UP",
      "HAND-CIRCLE MIDDLE UP|HAND-FIST MIDDLE RAISED KNUCKLE|HAND-FIST MIDDLE UP THUMB SIDE",
      "HAND-HOOK MIDDLE THUMB|HAND-FIST MIDDLE THUMB LITTLE|HAND-FIST MIDDLE LITTLE",
      "HAND-FIST MIDDLE RING LITTLE|HAND-CIRCLE MIDDLE RING LITTLE",
      "HAND-CURLICUE MIDDLE RING LITTLE ON|HAND-CUP MIDDLE RING LITTLE",
      "HAND-HINGE MIDDLE RING LITTLE|HAND-ANGLE MIDDLE RING LITTLE OUT",
      "HAND-ANGLE MIDDLE RING LITTLE IN|HAND-ANGLE MIDDLE RING LITTLE",
      "HAND-CIRCLE MIDDLE RING LITTLE BENT|HAND-CLAW MIDDLE RING LITTLE CONJOINED",
      "HAND-CLAW MIDDLE RING LITTLE CONJOINED SIDE|HAND-HOOK MIDDLE RING LITTLE CONJOINED OUT",
      "HAND-HOOK MIDDLE RING LITTLE CONJOINED IN|HAND-HOOK MIDDLE RING LITTLE CONJOINED",
      "HAND-HINGE INDEX HINGED|HAND-FIST INDEX THUMB SIDE|HAND-HINGE INDEX THUMB SIDE"]⟩,
    ⟨0x1d8de, "SIGNWRITING HAND-FIST INDEX THUMB ", [
      "SIDE THUMB DIAGONAL|SIDE THUMB CONJOINED|SIDE THUMB BENT|SIDE INDEX BENT|SIDE BOTH BENT",
      "SIDE INDEX HINGE|FORWARD INDEX STRAIGHT|FORWARD INDEX BENT|HOOK|CURLICUE",
      "CURVE THUMB INSIDE"]⟩,
    ⟨0x1d8e9, "SIGNWRITING ", [
      "HAND-CLAW INDEX THUMB CURVE THUMB INSIDE|HAND-FIST INDEX THUMB CURVE THUMB UNDER",
      "HAND-FIST INDEX THUMB CIRCLE|HAND-CUP INDEX THUMB|HAND-CUP INDEX THUMB OPEN",
      "HAND-HINGE INDEX THUMB OPEN|HAND-HINGE INDEX THUMB LARGE|HAND-HINGE INDEX THUMB",
      "HAND-HINGE INDEX THUMB SMALL|HAND-ANGLE INDEX THUMB OUT|HAND-ANGLE INDEX THUMB IN",
      "HAND-ANGLE INDEX THUMB|HAND-FIST THUMB"]⟩,
    ⟨0x1d8f6, "SIGNWRITING HAND-FIST THUMB ", [
      "HEEL|SIDE DIAGONAL|SIDE CONJOINED|SIDE BENT|FORWARD|BETWEEN INDEX MIDDLE",
      "BETWEEN MIDDLE RING|BETWEEN RING LITTLE|UNDER TWO FINGERS|OVER TWO FINGERS",
      "UNDER THREE FINGERS|UNDER FOUR FINGERS|OVER FOUR RAISED KNUCKLES"]⟩,
    ⟨0x1d903, "SIGNWRITING ", [
      "HAND-FIST|HAND-FIST HEEL|TOUCH SINGLE|TOUCH MULTIPLE|TOUCH BETWEEN|GRASP SINGLE",
      "GRASP MULTIPLE|GRASP BETWEEN|STRIKE SINGLE|STRIKE MULTIPLE|STRIKE BETWEEN|BRUSH SINGLE",
      "BRUSH MULTIPLE|BRUSH BETWEEN|RUB SINGLE|RUB MULTIPLE|RUB BETWEEN|SURFACE SYMBOLS",
      "SURFACE BETWEEN|SQUEEZE LARGE SINGLE|SQUEEZE SMALL SINGLE|SQUEEZE LARGE MULTIPLE",
      "SQUEEZE SMALL MULTIPLE|SQUEEZE SEQUENTIAL|FLICK LARGE SINGLE|FLICK SMALL SINGLE",
      "FLICK LARGE MULTIPLE|FLICK SMALL MULTIPLE|FLICK SEQUENTIAL|SQUEEZE FLICK ALTERNATING"]⟩,
    ⟨0x1d921, "SIGNWRITING MOVEMENT-HINGE ", [
      "UP DOWN LARGE|UP DOWN SMALL|UP SEQUENTIAL|DOWN SEQUENTIAL|UP DOWN ALTERNATING LARGE",
      "UP DOWN ALTERNATING SMALL|SIDE TO SIDE SCISSORS"]⟩,
    ⟨0x1d928, "SIGNWRITING ", [
      "MOVEMENT-WALLPLANE FINGER CONTACT|MOVEMENT-FLOORPLANE FINGER CONTACT"]⟩,
    ⟨0x1d92a, "SIGNWRITING MOVEMENT-WALLPLANE ", [
      "SINGLE STRAIGHT SMALL|SINGLE STRAIGHT MEDIUM|SINGLE STRAIGHT LARGE",
      "SINGLE STRAIGHT LARGEST|SINGLE WRIST FLEX|DOUBLE STRAIGHT|DOUBLE WRIST FLEX",
      "DOUBLE ALTERNATING|DOUBLE ALTERNATING WRIST FLEX|CROSS|TRIPLE STRAIGHT MOVEMENT",
      "TRIPLE WRIST FLEX|TRIPLE ALTERNATING|TRIPLE ALTERNATING WRIST FLEX|BEND SMALL|BEND MEDIUM",
      "BEND LARGE|CORNER SMALL|CORNER MEDIUM|CORNER LARGE|CORNER ROTATION|CHECK SMALL",
      "CHECK MEDIUM|CHECK LARGE|BOX SMALL|BOX MEDIUM|BOX LARGE|ZIGZAG SMALL|ZIGZAG MEDIUM",
      "ZIGZAG LARGE|PEAKS SMALL|PEAKS MEDIUM|PEAKS LARGE"]⟩,
    ⟨0x1d94b, "SIGNWRITING TRAVEL-WALLPLANE ", [
      "ROTATION-WALLPLANE SINGLE|ROTATION-WALLPLANE DOUBLE|ROTATION-WALLPLANE ALTERNATING",
      "ROTATION-FLOORPLANE SINGLE|ROTATION-FLOORPLANE DOUBLE|ROTATION-FLOORPLANE ALTERNATING",
      "SHAKING|ARM SPIRAL SINGLE|ARM SPIRAL DOUBLE|ARM SPIRAL TRIPLE"]⟩,
    ⟨0x1d955, "SIGNWRITING MOVEMENT-DIAGONAL ", [
      "AWAY SMALL|AWAY MEDIUM|AWAY LARGE|AWAY LARGEST|TOWARDS SMALL|TOWARDS MEDIUM|TOWARDS LARGE",
      "TOWARDS LARGEST|BETWEEN AWAY SMALL|BETWEEN AWAY MEDIUM|BETWEEN AWAY LARGE",
      "BETWEEN AWAY LARGEST|BETWEEN TOWARDS SMALL|BETWEEN TOWARDS MEDIUM|BETWEEN TOWARDS LARGE",
      "BETWEEN TOWARDS LARGEST"]⟩,
    ⟨0x1d965, "SIGNWRITING MOVEMENT-FLOORPLANE ", [
      "SINGLE STRAIGHT SMALL|SINGLE STRAIGHT MEDIUM|SINGLE STRAIGHT LARGE",
      "SINGLE STRAIGHT LARGEST|SINGLE WRIST FLEX|DOUBLE STRAIGHT|DOUBLE WRIST FLEX",
      "DOUBLE ALTERNATING|DOUBLE ALTERNATING WRIST FLEX|CROSS|TRIPLE STRAIGHT MOVEMENT",
      "TRIPLE WRIST FLEX|TRIPLE ALTERNATING MOVEMENT|TRIPLE ALTERNATING WRIST FLEX|BEND",
      "CORNER SMALL|CORNER MEDIUM|CORNER LARGE|CHECK|BOX SMALL|BOX MEDIUM|BOX LARGE|ZIGZAG SMALL",
      "ZIGZAG MEDIUM|ZIGZAG LARGE|PEAKS SMALL|PEAKS MEDIUM|PEAKS LARGE"]⟩,
    ⟨0x1d981, "SIGNWRITING TRAVEL-FLOORPLANE ", [
      "ROTATION-FLOORPLANE SINGLE|ROTATION-FLOORPLANE DOUBLE|ROTATION-FLOORPLANE ALTERNATING",
      "ROTATION-WALLPLANE SINGLE|ROTATION-WALLPLANE DOUBLE|ROTATION-WALLPLANE ALTERNATING",
      "SHAKING"]⟩,
    ⟨0x1d988, "SIGNWRITING MOVEMENT-WALLPLANE ", [
      "CURVE QUARTER SMALL|CURVE QUARTER MEDIUM|CURVE QUARTER LARGE|CURVE QUARTER LARGEST",
      "CURVE HALF-CIRCLE SMALL|CURVE HALF-CIRCLE MEDIUM|CURVE HALF-CIRCLE LARGE",
      "CURVE HALF-CIRCLE LARGEST|CURVE THREE-QUARTER CIRCLE SMALL",
      "CURVE THREE-QUARTER CIRCLE MEDIUM|HUMP SMALL|HUMP MEDIUM|HUMP LARGE|LOOP SMALL",
      "LOOP MEDIUM|LOOP LARGE|LOOP SMALL DOUBLE|WAVE CURVE DOUBLE SMALL|WAVE CURVE DOUBLE MEDIUM",
      "WAVE CURVE DOUBLE LARGE|WAVE CURVE TRIPLE SMALL|WAVE CURVE TRIPLE MEDIUM",
      "WAVE CURVE TRIPLE LARGE|CURVE THEN STRAIGHT|CURVED CROSS SMALL|CURVED CROSS MEDIUM"]⟩,
    ⟨0x1d9a2, "SIGNWRITING ROTATION-WALLPLANE ", ["SINGLE|DOUBLE|ALTERNATE"]⟩,
    ⟨0x1d9a5, "SIGNWRITING MOVEMENT-WALLPLANE ", [
      "SHAKING|CURVE HITTING FRONT WALL|HUMP HITTING FRONT WALL|LOOP HITTING FRONT WALL",
      "WAVE HITTING FRONT WALL"]⟩,
    ⟨0x1d9aa, "SIGNWRITING ROTATION-WALLPLANE ", [
      "SINGLE HITTING FRONT WALL|DOUBLE HITTING FRONT WALL|ALTERNATING HITTING FRONT WALL"]⟩,
    ⟨0x1d9ad, "SIGNWRITING MOVEMENT-WALLPLANE ", [
      "CURVE HITTING CHEST|HUMP HITTING CHEST|LOOP HITTING CHEST|WAVE HITTING CHEST"]⟩,
    ⟨0x1d9b1, "SIGNWRITING ROTATION-WALLPLANE ", [
      "SINGLE HITTING CHEST|DOUBLE HITTING CHEST|ALTERNATING HITTING CHEST"]⟩,
    ⟨0x1d9b4, "SIGNWRITING MOVEMENT-WALLPLANE WAVE DIAGONAL PATH ", ["SMALL|MEDIUM|LARGE"]⟩,
    ⟨0x1d9b7, "SIGNWRITING MOVEMENT-FLOORPLANE ", [
      "CURVE HITTING CEILING SMALL|CURVE HITTING CEILING LARGE|HUMP HITTING CEILING SMALL DOUBLE",
      "HUMP HITTING CEILING LARGE DOUBLE|HUMP HITTING CEILING SMALL TRIPLE",
      "HUMP HITTING CEILING LARGE TRIPLE|LOOP HITTING CEILING SMALL SINGLE",
      "LOOP HITTING CEILING LARGE SINGLE|LOOP HITTING CEILING SMALL DOUBLE",
      "LOOP HITTING CEILING LARGE DOUBLE|WAVE HITTING CEILING SMALL|WAVE HITTING CEILING LARGE"]⟩,
    ⟨0x1d9c3, "SIGNWRITING ROTATION-FLOORPLANE ", [
      "SINGLE HITTING CEILING|DOUBLE HITTING CEILING|ALTERNATING HITTING CEILING"]⟩,
    ⟨0x1d9c6, "SIGNWRITING MOVEMENT-FLOORPLANE ", [
      "CURVE HITTING FLOOR SMALL|CURVE HITTING FLOOR LARGE|HUMP HITTING FLOOR SMALL DOUBLE",
      "HUMP HITTING FLOOR LARGE DOUBLE|HUMP HITTING FLOOR TRIPLE SMALL TRIPLE",
      "HUMP HITTING FLOOR TRIPLE LARGE TRIPLE|LOOP HITTING FLOOR SMALL SINGLE",
      "LOOP HITTING FLOOR LARGE SINGLE|LOOP HITTING FLOOR SMALL DOUBLE",
      "LOOP HITTING FLOOR LARGE DOUBLE|WAVE HITTING FLOOR SMALL|WAVE HITTING FLOOR LARGE"]⟩,
    ⟨0x1d9d2, "SIGNWRITING ROTATION-FLOORPLANE ", [
      "SINGLE HITTING FLOOR|DOUBLE HITTING FLOOR|ALTERNATING HITTING FLOOR"]⟩,
    ⟨0x1d9d5, "SIGNWRITING MOVEMENT-FLOORPLANE ", [
      "CURVE SMALL|CURVE MEDIUM|CURVE LARGE|CURVE LARGEST|CURVE COMBINED|HUMP SMALL|LOOP SMALL",
      "WAVE SNAKE|WAVE SMALL|WAVE LARGE"]⟩,
    ⟨0x1d9df, "SIGNWRITING ", [
      "ROTATION-FLOORPLANE SINGLE|ROTATION-FLOORPLANE DOUBLE|ROTATION-FLOORPLANE ALTERNATING",
      "MOVEMENT-FLOORPLANE SHAKING PARALLEL"]⟩,
    ⟨0x1d9e3, "SIGNWRITING MOVEMENT-WALLPLANE ARM CIRCLE ", [
      "SMALL SINGLE|MEDIUM SINGLE|SMALL DOUBLE|MEDIUM DOUBLE"]⟩,
    ⟨0x1d9e7, "SIGNWRITING MOVEMENT-FLOORPLANE ARM CIRCLE HITTING WALL ", [
      "SMALL SINGLE|MEDIUM SINGLE|LARGE SINGLE|SMALL DOUBLE|MEDIUM DOUBLE|LARGE DOUBLE"]⟩,
    ⟨0x1d9ed, "SIGNWRITING MOVEMENT-WALLPLANE WRIST CIRCLE FRONT ", ["SINGLE|DOUBLE"]⟩,
    ⟨0x1d9ef, "SIGNWRITING MOVEMENT-FLOORPLANE WRIST CIRCLE HITTING WALL ", ["SINGLE|DOUBLE"]⟩,
    ⟨0x1d9f1, "SIGNWRITING MOVEMENT-WALLPLANE FINGER CIRCLES ", ["SINGLE|DOUBLE"]⟩,
    ⟨0x1d9f3, "SIGNWRITING MOVEMENT-FLOORPLANE FINGER CIRCLES HITTING WALL ", ["SINGLE|DOUBLE"]⟩,
    ⟨0x1d9f5, "SIGNWRITING DYNAMIC ", [
      "ARROWHEAD SMALL|ARROWHEAD LARGE|FAST|SLOW|TENSE|RELAXED|SIMULTANEOUS",
      "SIMULTANEOUS ALTERNATING|EVERY OTHER TIME|GRADUAL"]⟩,
    ⟨0x1d9ff, "SIGNWRITING ", [
      "HEAD|HEAD RIM|HEAD MOVEMENT-WALLPLANE STRAIGHT|HEAD MOVEMENT-WALLPLANE TILT",
      "HEAD MOVEMENT-FLOORPLANE STRAIGHT|HEAD MOVEMENT-WALLPLANE CURVE",
      "HEAD MOVEMENT-FLOORPLANE CURVE|HEAD MOVEMENT CIRCLE",
      "FACE DIRECTION POSITION NOSE FORWARD TILTING|FACE DIRECTION POSITION NOSE UP OR DOWN",
      "FACE DIRECTION POSITION NOSE UP OR DOWN TILTING|EYEBROWS STRAIGHT UP",
      "EYEBROWS STRAIGHT NEUTRAL|EYEBROWS STRAIGHT DOWN|DREAMY EYEBROWS NEUTRAL DOWN",
      "DREAMY EYEBROWS DOWN NEUTRAL|DREAMY EYEBROWS UP NEUTRAL|DREAMY EYEBROWS NEUTRAL UP",
      "FOREHEAD NEUTRAL|FOREHEAD CONTACT|FOREHEAD WRINKLED|EYES OPEN|EYES SQUEEZED|EYES CLOSED",
      "EYE BLINK SINGLE|EYE BLINK MULTIPLE|EYES HALF OPEN|EYES WIDE OPEN|EYES HALF CLOSED",
      "EYES WIDENING MOVEMENT|EYE WINK|EYELASHES UP|EYELASHES DOWN|EYELASHES FLUTTERING",
      "EYEGAZE-WALLPLANE STRAIGHT|EYEGAZE-WALLPLANE STRAIGHT DOUBLE",
      "EYEGAZE-WALLPLANE STRAIGHT ALTERNATING|EYEGAZE-FLOORPLANE STRAIGHT",
      "EYEGAZE-FLOORPLANE STRAIGHT DOUBLE|EYEGAZE-FLOORPLANE STRAIGHT ALTERNATING",
      "EYEGAZE-WALLPLANE CURVED|EYEGAZE-FLOORPLANE CURVED|EYEGAZE-WALLPLANE CIRCLING",
      "CHEEKS PUFFED|CHEEKS NEUTRAL|CHEEKS SUCKED|TENSE CHEEKS HIGH|TENSE CHEEKS MIDDLE",
      "TENSE CHEEKS LOW|EARS|NOSE NEUTRAL|NOSE CONTACT|NOSE WRINKLES|NOSE WIGGLES",
      "AIR BLOWING OUT|AIR SUCKING IN|AIR BLOW SMALL ROTATIONS|AIR SUCK SMALL ROTATIONS",
      "BREATH INHALE|BREATH EXHALE"]⟩,
    ⟨0x1da3b, "SIGNWRITING MOUTH ", [
      "CLOSED NEUTRAL|CLOSED FORWARD|CLOSED CONTACT|SMILE|SMILE WRINKLED|SMILE OPEN|FROWN",
      "FROWN WRINKLED|FROWN OPEN|OPEN CIRCLE|OPEN FORWARD|OPEN WRINKLED|OPEN OVAL",
      "OPEN OVAL WRINKLED|OPEN OVAL YAWN|OPEN RECTANGLE|OPEN RECTANGLE WRINKLED",
      "OPEN RECTANGLE YAWN|KISS|KISS FORWARD|KISS WRINKLED|TENSE|TENSE FORWARD|TENSE SUCKED"]⟩,
    ⟨0x1da53, "SIGNWRITING ", [
      "LIPS PRESSED TOGETHER|LIP LOWER OVER UPPER|LIP UPPER OVER LOWER|MOUTH CORNERS",
      "MOUTH WRINKLES SINGLE|MOUTH WRINKLES DOUBLE|TONGUE STICKING OUT FAR|TONGUE LICKING LIPS",
      "TONGUE TIP BETWEEN LIPS|TONGUE TIP TOUCHING INSIDE MOUTH|TONGUE INSIDE MOUTH RELAXED",
      "TONGUE MOVES AGAINST CHEEK|TONGUE CENTRE STICKING OUT|TONGUE CENTRE INSIDE MOUTH|TEETH",
      "TEETH MOVEMENT|TEETH ON TONGUE|TEETH ON TONGUE MOVEMENT|TEETH ON LIPS",
      "TEETH ON LIPS MOVEMENT|TEETH BITE LIPS|MOVEMENT-WALLPLANE JAW|MOVEMENT-FLOORPLANE JAW",
      "NECK|HAIR|EXCITEMENT|SHOULDER HIP SPINE|SHOULDER HIP POSITIONS",
      "WALLPLANE SHOULDER HIP MOVE|FLOORPLANE SHOULDER HIP MOVE|SHOULDER TILTING FROM WAIST",
      "TORSO-WALLPLANE STRAIGHT STRETCH|TORSO-WALLPLANE CURVED BEND|TORSO-FLOORPLANE TWISTING",
      "UPPER BODY TILTING FROM HIP JOINTS|LIMB COMBINATION|LIMB LENGTH-1|LIMB LENGTH-2",
      "LIMB LENGTH-3|LIMB LENGTH-4|LIMB LENGTH-5|LIMB LENGTH-6|LIMB LENGTH-7|FINGER",
      "LOCATION-WALLPLANE SPACE|LOCATION-FLOORPLANE SPACE|LOCATION HEIGHT|LOCATION WIDTH",
      "LOCATION DEPTH|LOCATION HEAD NECK|LOCATION TORSO|LOCATION LIMBS DIGITS|COMMA|FULL STOP",
      "SEMICOLON|COLON|PARENTHESIS"]⟩,
    ⟨0x1da9b, "SIGNWRITING FILL ", ["MODIFIER-2|MODIFIER-3|MODIFIER-4|MODIFIER-5|MODIFIER-6"]⟩,
    ⟨0x1daa1, "SIGNWRITING ROTATION ", [
      "MODIFIER-2|MODIFIER-3|MODIFIER-4|MODIFIER-5|MODIFIER-6|MODIFIER-7|MODIFIER-8|MODIFIER-9",
      "MODIFIER-10|MODIFIER-11|MODIFIER-12|MODIFIER-13|MODIFIER-14|MODIFIER-15|MODIFIER-16"]⟩,
    ⟨0x1df00, "LATIN ", [
      "SMALL LETTER FENG DIGRAPH WITH TRILL|SMALL LETTER REVERSED SCRIPT G",
      "LETTER SMALL CAPITAL TURNED G|SMALL LETTER REVERSED K|LETTER SMALL CAPITAL L WITH BELT",
      "SMALL LETTER LEZH WITH RETROFLEX HOOK|SMALL LETTER TURNED Y WITH BELT",
      "SMALL LETTER REVERSED ENG|SMALL LETTER TURNED R WITH LONG LEG AND RETROFLEX HOOK",
      "SMALL LETTER T WITH HOOK AND RETROFLEX HOOK|LETTER RETROFLEX CLICK WITH RETROFLEX HOOK",
      "SMALL LETTER ESH WITH DOUBLE BAR|SMALL LETTER ESH WITH DOUBLE BAR AND CURL",
      "SMALL LETTER TURNED T WITH CURL|LETTER INVERTED GLOTTAL STOP WITH CURL",
      "LETTER STRETCHED C WITH CURL|LETTER SMALL CAPITAL TURNED K"]⟩,
    ⟨0x1df11, "LATIN SMALL LETTER ", [
      "L WITH FISHHOOK|DEZH DIGRAPH WITH PALATAL HOOK|L WITH BELT AND PALATAL HOOK",
      "ENG WITH PALATAL HOOK|TURNED R WITH PALATAL HOOK|R WITH FISHHOOK AND PALATAL HOOK",
      "TESH DIGRAPH WITH PALATAL HOOK|EZH WITH PALATAL HOOK|DEZH DIGRAPH WITH RETROFLEX HOOK",
      "I WITH STROKE AND RETROFLEX HOOK|O WITH RETROFLEX HOOK|TESH DIGRAPH WITH RETROFLEX HOOK",
      "C WITH RETROFLEX HOOK|S WITH CURL"]⟩]

end TaskGraph.Text.CharacterName
