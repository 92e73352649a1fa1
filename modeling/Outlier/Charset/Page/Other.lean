import Outlier.Charset.Page

/-! Pages of the Cyrillic script, of printers and of hand-held devices. -/
namespace Outlier.Charset.Page

def other : List Page := [
  ⟨"koi8_r cskoi8r", "
    2500 2502 250C 2510 2514 2518 251C 2524 252C 2534 253C 2580 2584 2588 258C 2590-2593 2320 25A0
    2219-221A 2248 2264-2265 A0 2321 B0 B2 B7 F7 2550-2552 451 2553-2561 401 2562-256C A9 44E
    430-431 446 434-435 444 433 445 438-43F 44F 440-443 436 432 44C 44B 437 448 44D 449 447 44A
    42E 410-411 426 414-415 424 413 425 418-41F 42F 420-423 416 412 42C 42B 417 428 42D 429 427
    42A"⟩,
  ⟨"koi8_t", "
    49B 493 201A 492 201E 2026 2020-2021 _ 2030 4B3 2039 4B2 4B7 4B6 _ 49A 2018-2019 201C-201D
    2022 2013-2014 _ 2122 _ 203A _ _ _ _ _ 4EF 4EE 451 A4 4E3 A6-A7 _ _ _ AB-AE _ B0-B2 401 _ 4E2
    B6-B7 _ 2116 _ BB _ _ _ A9 44E 430-431 446 434-435 444 433 445 438-43F 44F 440-443 436 432 44C
    44B 437 448 44D 449 447 44A 42E 410-411 426 414-415 424 413 425 418-41F 42F 420-423 416 412
    42C 42B 417 428 42D 429 427 42A"⟩,
  ⟨"koi8_u", "
    2500 2502 250C 2510 2514 2518 251C 2524 252C 2534 253C 2580 2584 2588 258C 2590-2593 2320 25A0
    2219-221A 2248 2264-2265 A0 2321 B0 B2 B7 F7 2550-2552 451 454 2554 456-457 2557-255B 491
    255D-2561 401 404 2563 406-407 2566-256A 490 256C A9 44E 430-431 446 434-435 444 433 445
    438-43F 44F 440-443 436 432 44C 44B 437 448 44D 449 447 44A 42E 410-411 426 414-415 424 413
    425 418-41F 42F 420-423 416 412 42C 42B 417 428 42D 429 427 42A"⟩,
  ⟨"kz1048 kz_1048 rk1048 strk1048_2002", "
    402-403 201A 453 201E 2026 2020-2021 20AC 2030 409 2039 40A 49A 4BA 40F 452 2018-2019
    201C-201D 2022 2013-2014 _ 2122 459 203A 45A 49B 4BB 45F A0 4B0-4B1 4D8 A4 4E8 A6-A7 401 A9
    492 AB-AE 4AE B0-B1 406 456 4E9 B5-B7 451 2116 493 BB 4D9 4A2-4A3 4AF 410-44F"⟩,
  ⟨"ptcp154 cp154 csptcp154 cyrillic_asian pt154", "
    496 492 4EE 493 201E 2026 4B6 4AE 4B2 4AF 4A0 4E2 4A2 49A 4BA 4B8 497 2018-2019 201C-201D 2022
    2013-2014 4B3 4B7 4A1 4E3 4A3 49B 4BB 4B9 A0 40E 45E 408 4E8 498 4B0 A7 401 A9 4D8 AB-AC 4EF
    AE 49C B0 4B1 406 456 499 4E9 B6-B7 451 2116 4D9 BB 458 4AA-4AB 49D 410-44F"⟩,
  ⟨"hp_roman8 cp1051 ibm1051 r8 roman8", "
    80-A0 C0 C2 C8 CA-CB CE-CF B4 2CB 2C6 A8 2DC D9 DB 20A4 AF DD FD B0 C7 E7 D1 F1 A1 BF A4 A3 A5
    A7 192 A2 E2 EA F4 FB E1 E9 F3 FA E0 E8 F2 F9 E4 EB F6 FC C5 EE D8 C6 E5 ED F8 E6 C4 EC D6 DC
    C9 EF DF D4 C1 C3 E3 D0 F0 CD CC D3 D2 D5 F5 160-161 DA 178 FF DE FE B7 B5-B6 BE 2014 BC-BD AA
    BA AB 25A0 BB B1 _"⟩,
  ⟨"palmos", "
    20AC 81 201A 192 201E 2026 2020-2021 2C6 2030 160 2039 152 2666 2663 2665 2660 2018-2019
    201C-201D 2022 2013-2014 2DC 2122 161 9B 153 9D-9E 178 A0-FF"⟩]

end Outlier.Charset.Page
