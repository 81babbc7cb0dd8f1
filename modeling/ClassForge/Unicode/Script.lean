import ClassForge.Unicode.Runs

/-!
Scripts. Every code point has at most one, written with four letters.
-/
namespace ClassForge.Unicode.Script

/-- Runs of code points of one script, from zero on; Zzzz is no script. -/
private def rows : List String := [
  "41Zyyy 1aLatn 6Zyyy 1aLatn 2fZyyy Latn fZyyy Latn 5Zyyy 17Latn Zyyy 1fLatn Zyyy 1c1Latn",
  "27Zyyy 5Latn 5Zyyy 2Bopo 14Zyyy 70Zinh 4Grek Zyyy 3Grek 2Zzzz 4Grek Zyyy Grek 4Zzzz Grek",
  "Zyyy Grek Zyyy 3Grek Zzzz Grek Zzzz 14Grek Zzzz 3fGrek eCopt 10Grek 85Cyrl 2Zinh a9Cyrl Zzzz",
  "26Armn 2Zzzz 32Armn 2Zzzz 3Armn Zzzz 37Hebr 8Zzzz 1bHebr 4Zzzz 6Hebr bZzzz 5Arab Zyyy 6Arab",
  "Zyyy eArab Zyyy 3Arab Zyyy 20Arab Zyyy aArab bZinh 1aArab Zinh 6cArab Zyyy 22Arab eSyrc Zzzz",
  "3cSyrc 2Zzzz 3Syrc 30Arab 32Thaa eZzzz 3bNkoo 2Zzzz 3Nkoo 2eSamr 2Zzzz fSamr Zzzz 1cMand",
  "2Zzzz Mand Zzzz bSyrc 5Zzzz 1fArab Zzzz 2Arab 5Zzzz 4bArab Zyyy 1dArab 51Deva 4Zinh fDeva",
  "2Zyyy 1aDeva 4Beng Zzzz 8Beng 2Zzzz 2Beng 2Zzzz 16Beng Zzzz 7Beng Zzzz Beng 3Zzzz 4Beng",
  "2Zzzz 9Beng 2Zzzz 2Beng 2Zzzz 4Beng 8Zzzz Beng 4Zzzz 2Beng Zzzz 5Beng 2Zzzz 19Beng 2Zzzz",
  "3Guru Zzzz 6Guru 4Zzzz 2Guru 2Zzzz 16Guru Zzzz 7Guru Zzzz 2Guru Zzzz 2Guru Zzzz 2Guru 2Zzzz",
  "Guru Zzzz 5Guru 4Zzzz 2Guru 2Zzzz 3Guru 3Zzzz Guru 7Zzzz 4Guru Zzzz Guru 7Zzzz 11Guru aZzzz",
  "3Gujr Zzzz 9Gujr Zzzz 3Gujr Zzzz 16Gujr Zzzz 7Gujr Zzzz 2Gujr Zzzz 5Gujr 2Zzzz aGujr Zzzz",
  "3Gujr Zzzz 3Gujr 2Zzzz Gujr fZzzz 4Gujr 2Zzzz cGujr 7Zzzz 7Gujr Zzzz 3Orya Zzzz 8Orya 2Zzzz",
  "2Orya 2Zzzz 16Orya Zzzz 7Orya Zzzz 2Orya Zzzz 5Orya 2Zzzz 9Orya 2Zzzz 2Orya 2Zzzz 3Orya",
  "7Zzzz 3Orya 4Zzzz 2Orya Zzzz 5Orya 2Zzzz 12Orya aZzzz 2Taml Zzzz 6Taml 3Zzzz 3Taml Zzzz",
  "4Taml 3Zzzz 2Taml Zzzz Taml Zzzz 2Taml 3Zzzz 2Taml 3Zzzz 3Taml 3Zzzz cTaml 4Zzzz 5Taml 3Zzzz",
  "3Taml Zzzz 4Taml 2Zzzz Taml 6Zzzz Taml eZzzz 15Taml 5Zzzz dTelu Zzzz 3Telu Zzzz 17Telu Zzzz",
  "10Telu 2Zzzz 9Telu Zzzz 3Telu Zzzz 4Telu 7Zzzz 2Telu Zzzz 3Telu 2Zzzz Telu 2Zzzz 4Telu 2Zzzz",
  "aTelu 7Zzzz 9Telu dKnda Zzzz 3Knda Zzzz 17Knda Zzzz aKnda Zzzz 5Knda 2Zzzz 9Knda Zzzz 3Knda",
  "Zzzz 4Knda 7Zzzz 2Knda 6Zzzz 2Knda Zzzz 4Knda 2Zzzz aKnda Zzzz 3Knda cZzzz dMlym Zzzz 3Mlym",
  "Zzzz 33Mlym Zzzz 3Mlym Zzzz 6Mlym 4Zzzz 10Mlym 2Zzzz 1aMlym Zzzz 3Sinh Zzzz 12Sinh 3Zzzz",
  "18Sinh Zzzz 9Sinh Zzzz Sinh 2Zzzz 7Sinh 3Zzzz Sinh 4Zzzz 6Sinh Zzzz Sinh Zzzz 8Sinh 6Zzzz",
  "aSinh 2Zzzz 3Sinh cZzzz 3aThai 4Zzzz Zyyy 1cThai 25Zzzz 2Laoo Zzzz Laoo Zzzz 5Laoo Zzzz",
  "18Laoo Zzzz Laoo Zzzz 17Laoo 2Zzzz 5Laoo Zzzz Laoo Zzzz 7Laoo Zzzz aLaoo 2Zzzz 4Laoo 20Zzzz",
  "48Tibt Zzzz 24Tibt 4Zzzz 27Tibt Zzzz 24Tibt Zzzz fTibt Zzzz 7Tibt 4Zyyy 2Tibt 25Zzzz a0Mymr",
  "26Geor Zzzz Geor 5Zzzz Geor 2Zzzz 2bGeor Zyyy 4Geor 100Hang 49Ethi Zzzz 4Ethi 2Zzzz 7Ethi",
  "Zzzz Ethi Zzzz 4Ethi 2Zzzz 29Ethi Zzzz 4Ethi 2Zzzz 21Ethi Zzzz 4Ethi 2Zzzz 7Ethi Zzzz Ethi",
  "Zzzz 4Ethi 2Zzzz fEthi Zzzz 39Ethi Zzzz 4Ethi 2Zzzz 43Ethi 2Zzzz 20Ethi 3Zzzz 1aEthi 6Zzzz",
  "56Cher 2Zzzz 6Cher 2Zzzz 280Cans 1dOgam 3Zzzz 4bRunr 3Zyyy bRunr 7Zzzz 16Tglg 9Zzzz Tglg",
  "15Hano 2Zyyy 9Zzzz 14Buhd cZzzz dTagb Zzzz 3Tagb Zzzz 2Tagb cZzzz 5eKhmr 2Zzzz aKhmr 6Zzzz",
  "aKhmr 6Zzzz 2Mong 2Zyyy Mong Zyyy 14Mong 6Zzzz 59Mong 7Zzzz 2bMong 5Zzzz 46Cans aZzzz 1fLimb",
  "Zzzz cLimb 4Zzzz cLimb 4Zzzz Limb 3Zzzz cLimb 1eTale 2Zzzz 5Tale bZzzz 2cTalu 4Zzzz 1aTalu",
  "6Zzzz bTalu 3Zzzz 2Talu 20Khmr 1cBugi 2Zzzz 2Bugi 3fLana Zzzz 1dLana 2Zzzz bLana 6Zzzz aLana",
  "6Zzzz eLana 2Zzzz 1fZinh 31Zzzz 4dBali Zzzz 32Bali 40Sund 34Batk 8Zzzz 4Batk 38Lepc 3Zzzz",
  "fLepc 3Zzzz 3Lepc 30Olck bCyrl 5Zzzz 2bGeor 2Zzzz 3Geor 8Sund 8Zzzz 3Zinh Zyyy dZinh Zyyy",
  "7Zinh 4Zyyy Zinh 6Zyyy Zinh 3Zyyy 2Zinh Zyyy 5Zzzz 26Latn 5Grek Cyrl 31Latn 5Grek 4Latn",
  "5Grek dLatn Cyrl 46Latn Grek 40Zinh 100Latn 16Grek 2Zzzz 6Grek 2Zzzz 26Grek 2Zzzz 6Grek",
  "2Zzzz 8Grek Zzzz Grek Zzzz Grek Zzzz Grek Zzzz 1fGrek 2Zzzz 35Grek Zzzz fGrek Zzzz eGrek",
  "2Zzzz 6Grek Zzzz 13Grek 2Zzzz 3Grek Zzzz 9Grek Zzzz cZyyy 2Zinh 57Zyyy Zzzz bZyyy Latn 2Zzzz",
  "bZyyy Latn fZyyy Zzzz dLatn 3Zzzz 21Zyyy fZzzz 21Zinh fZzzz 26Zyyy Grek 3Zyyy 2Latn 6Zyyy",
  "Latn 1bZyyy Latn 11Zyyy 29Latn 3Zyyy 4Zzzz 29aZyyy 16Zzzz bZyyy 15Zzzz 3a0Zyyy 100Brai",
  "274Zyyy 2Zzzz 20Zyyy Zzzz 69Zyyy 60Glag 20Latn 74Copt 5Zzzz 7Copt 26Geor Zzzz Geor 5Zzzz",
  "Geor 2Zzzz 38Tfng 7Zzzz 2Tfng eZzzz Tfng 17Ethi 9Zzzz 7Ethi Zzzz 7Ethi Zzzz 7Ethi Zzzz 7Ethi",
  "Zzzz 7Ethi Zzzz 7Ethi Zzzz 7Ethi Zzzz 7Ethi Zzzz 20Cyrl 5eZyyy 22Zzzz 1aHani Zzzz 59Hani",
  "cZzzz d6Hani 1aZzzz 15Zyyy Hani Zyyy Hani 19Zyyy 9Hani 4Zinh 2Hang 8Zyyy 4Hani 4Zyyy Zzzz",
  "56Hira 2Zzzz 2Zinh 2Zyyy 3Hira Zyyy 5aKana 2Zyyy 3Kana 5Zzzz 2bBopo Zzzz 5eHang Zzzz 10Zyyy",
  "20Bopo 26Zyyy 9Zzzz Zyyy 10Kana 1fHang Zzzz 40Zyyy 1fHang 51Zyyy 2fKana Zyyy 58Kana a8Zyyy",
  "19c0Hani 40Zyyy 5200Hani 48dYiii 3Zzzz 37Yiii 9Zzzz 30Lisu 12cVaii 14Zzzz 60Cyrl 58Bamu",
  "8Zzzz 22Zyyy 66Latn 3Zyyy 43Latn 2Zzzz 2Latn Zzzz Latn Zzzz 8Latn 15Zzzz eLatn 2dSylo 3Zzzz",
  "aZyyy 6Zzzz 38Phag 8Zzzz 46Saur 8Zzzz cSaur 6Zzzz 20Deva 2eKali Zyyy Kali 24Rjng bZzzz Rjng",
  "1dHang 3Zzzz 4eJava Zzzz Zyyy aJava 4Zzzz 2Java 1fMymr Zzzz 37Cham 9Zzzz eCham 2Zzzz aCham",
  "2Zzzz 4Cham 20Mymr 43Tavt 18Zzzz 5Tavt 17Mtei aZzzz 6Ethi 2Zzzz 6Ethi 2Zzzz 6Ethi 9Zzzz",
  "7Ethi Zzzz 7Ethi Zzzz 2bLatn Zyyy 9Latn Grek 4Latn 2Zyyy 4Zzzz 50Cher 2eMtei 2Zzzz aMtei",
  "6Zzzz 2ba4Hang cZzzz 17Hang 4Zzzz 31Hang 2104Zzzz 16eHani 2Zzzz 6aHani 26Zzzz 7Latn cZzzz",
  "5Armn 5Zzzz 1aHebr Zzzz 5Hebr Zzzz Hebr Zzzz 2Hebr Zzzz 2Hebr Zzzz aHebr 73Arab 10Zzzz",
  "16bArab 2Zyyy 50Arab 2Zzzz 36Arab 7Zzzz Arab 20Zzzz 10Arab 10Zinh aZyyy 6Zzzz eZinh 2Cyrl",
  "23Zyyy Zzzz 13Zyyy Zzzz 4Zyyy 4Zzzz 5Arab Zzzz 87Arab 2Zzzz Zyyy Zzzz 20Zyyy 1aLatn 6Zyyy",
  "1aLatn bZyyy aKana Zyyy 2dKana 2Zyyy 1fHang 3Zzzz 6Hang 2Zzzz 6Hang 2Zzzz 6Hang 2Zzzz 3Hang",
  "3Zzzz 7Zyyy Zzzz 7Zyyy aZzzz 5Zyyy 2Zzzz cLinb Zzzz 1aLinb Zzzz 13Linb Zzzz 2Linb Zzzz fLinb",
  "2Zzzz eLinb 22Zzzz 7bLinb 5Zzzz 3Zyyy 4Zzzz 2dZyyy 3Zzzz 9Zyyy 4fGrek Zzzz dZyyy 3Zzzz Grek",
  "2fZzzz 2dZyyy Zinh 82Zzzz 1dLyci 3Zzzz 31Cari fZzzz Zinh 1bZyyy 4Zzzz 24Ital 9Zzzz 3Ital",
  "1bGoth 5Zzzz 2bPerm 5Zzzz 1eUgar Zzzz Ugar 24Xpeo 4Zzzz eXpeo 2aZzzz 50Dsrt 30Shaw 1eOsma",
  "2Zzzz aOsma 6Zzzz 24Osge 4Zzzz 24Osge 4Zzzz 28Elba 8Zzzz 34Aghb bZzzz Aghb bVith Zzzz fVith",
  "Zzzz 7Vith Zzzz 2Vith Zzzz bVith Zzzz fVith Zzzz 7Vith Zzzz 2Vith 3Zzzz 34Todr cZzzz 137Lina",
  "9Zzzz 16Lina aZzzz 8Lina 18Zzzz 6Latn Zzzz 2aLatn Zzzz 9Latn 45Zzzz 6Cprt 2Zzzz Cprt Zzzz",
  "2cCprt Zzzz 2Cprt 3Zzzz Cprt 2Zzzz Cprt 16Armi Zzzz 9Armi 20Palm 1fNbat 8Zzzz 9Nbat 30Zzzz",
  "13Hatr Zzzz 2Hatr 5Zzzz 5Hatr 1cPhnx 3Zzzz Phnx 1aLydi 5Zzzz Lydi 40Zzzz 20Mero 18Merc 4Zzzz",
  "14Merc 2Zzzz 2eMerc 4Khar Zzzz 2Khar 5Zzzz 8Khar Zzzz 3Khar Zzzz 1dKhar 2Zzzz 3Khar 4Zzzz",
  "aKhar 7Zzzz 9Khar 7Zzzz 20Sarb 20Narb 20Zzzz 27Mani 4Zzzz cMani 9Zzzz 36Avst 3Zzzz 7Avst",
  "16Prti 2Zzzz 8Prti 13Phli 5Zzzz 8Phli 12Phlp 7Zzzz 4Phlp cZzzz 7Phlp 50Zzzz 49Orkh 37Zzzz",
  "33Hung dZzzz 33Hung 7Zzzz 6Hung 28Rohg 8Zzzz aRohg 6Zzzz 26Gara 3Zzzz 1dGara 8Zzzz 2Gara",
  "d0Zzzz 1fArab Zzzz 2aYezi Zzzz 3Yezi 2Zzzz 2Yezi 10Zzzz 3Arab 37Zzzz 4Arab 28Sogo 8Zzzz",
  "2aSogd 16Zzzz 1aOugr 26Zzzz 1cChrs 14Zzzz 17Elym 9Zzzz 4eBrah 4Zzzz 24Brah 9Zzzz Brah 43Kthi",
  "aZzzz Kthi 2Zzzz 19Sora 7Zzzz aSora 6Zzzz 35Cakm Zzzz 12Cakm 8Zzzz 27Mahj 9Zzzz 60Shrd Zzzz",
  "14Sinh bZzzz 12Khoj Zzzz 2fKhoj 3eZzzz 7Mult Zzzz Mult Zzzz 4Mult Zzzz fMult Zzzz bMult",
  "6Zzzz 3bSind 5Zzzz aSind 6Zzzz 4Gran Zzzz 8Gran 2Zzzz 2Gran 2Zzzz 16Gran Zzzz 7Gran Zzzz",
  "2Gran Zzzz 5Gran Zzzz Zinh 9Gran 2Zzzz 2Gran 2Zzzz 3Gran 2Zzzz Gran 6Zzzz Gran 5Zzzz 7Gran",
  "2Zzzz 7Gran 3Zzzz 5Gran bZzzz aTutg Zzzz Tutg 2Zzzz Tutg Zzzz 26Tutg Zzzz aTutg Zzzz Tutg",
  "2Zzzz Tutg Zzzz 4Tutg Zzzz aTutg Zzzz 2Tutg 8Zzzz 2Tutg 1dZzzz 5cNewa Zzzz 5Newa 1eZzzz",
  "48Tirh 8Zzzz aTirh a6Zzzz 36Sidd 2Zzzz 26Sidd 22Zzzz 45Modi bZzzz aModi 6Zzzz dMong 13Zzzz",
  "3aTakr 6Zzzz aTakr 6Zzzz 14Mymr 1cZzzz 1bAhom 2Zzzz fAhom 4Zzzz 17Ahom b9Zzzz 3cDogr 64Zzzz",
  "53Wara cZzzz Wara 7Diak 2Zzzz Diak 2Zzzz 8Diak Zzzz 2Diak Zzzz 1eDiak Zzzz 2Diak 2Zzzz cDiak",
  "9Zzzz aDiak 46Zzzz 8Nand 2Zzzz 2eNand 2Zzzz bNand 1bZzzz 48Zanb 8Zzzz 53Soyo dZzzz 10Cans",
  "39Pauc 7Zzzz aDeva b6Zzzz 22Sunu eZzzz aSunu 6Zzzz 9Bhks Zzzz 2dBhks Zzzz eBhks aZzzz 1dBhks",
  "3Zzzz 20Marc 2Zzzz 16Marc Zzzz eMarc 49Zzzz 7Gonm Zzzz 2Gonm Zzzz 2cGonm 3Zzzz Gonm Zzzz",
  "2Gonm Zzzz 9Gonm 8Zzzz aGonm 6Zzzz 6Gong Zzzz 2Gong Zzzz 25Gong Zzzz 2Gong Zzzz 6Gong 7Zzzz",
  "aGong 136Zzzz 19Maka 7Zzzz 11Kawi Zzzz 29Kawi 3Zzzz 1dKawi 55Zzzz Lisu fZzzz 32Taml dZzzz",
  "Taml 39aXsux 66Zzzz 6fXsux Zzzz 5Xsux bZzzz c4Xsux a4cZzzz 63Cpmn dZzzz 456Egyp aZzzz",
  "f9bEgyp 5Zzzz 247Hluw 1ab9Zzzz 3aGukh 6c6Zzzz 239Bamu 7Zzzz 1fMroo Zzzz aMroo 4Zzzz 2Mroo",
  "4fTnsa Zzzz aTnsa 6Zzzz 1eBass 2Zzzz 6Bass aZzzz 46Hmng aZzzz aHmng Zzzz 7Hmng Zzzz 15Hmng",
  "5Zzzz 13Hmng 1b0Zzzz 3aKrai c6Zzzz 5bMedf 65Zzzz 4bPlrd 4Zzzz 39Plrd 7Zzzz 11Plrd 40Zzzz",
  "Tang Nshu 2Hani Kits bZzzz 2Hani eZzzz 17f8Tang 8Zzzz 300Tang 1d6Kits 29Zzzz Kits 9Tang",
  "22e7Zzzz 4Kana Zzzz 7Kana Zzzz 2Kana Zzzz Kana 11fHira 3Kana fZzzz Hira 1dZzzz 3Hira 2Zzzz",
  "Kana eZzzz 4Kana 8Zzzz 18cNshu 904Zzzz 6bDupl 5Zzzz dDupl 3Zzzz 9Dupl 7Zzzz aDupl 2Zzzz",
  "4Dupl 4Zyyy f5cZzzz faZyyy 6Zzzz 1b4Zyyy 4cZzzz 2eZinh 2Zzzz 17Zinh 9Zzzz 74Zyyy 3cZzzz",
  "f6Zyyy aZzzz 27Zyyy 2Zzzz 3eZyyy 3Zinh 11Zyyy 8Zinh 2Zyyy 7Zinh 1eZyyy 4Zinh 3dZyyy 15Zzzz",
  "46Grek 7aZzzz 14Zyyy cZzzz 14Zyyy cZzzz 57Zyyy 9Zzzz 19Zyyy 87Zzzz 55Zyyy Zzzz 47Zyyy Zzzz",
  "2Zyyy 2Zzzz Zyyy 2Zzzz 2Zyyy 2Zzzz 4Zyyy Zzzz cZyyy Zzzz Zyyy Zzzz 7Zyyy Zzzz 41Zyyy Zzzz",
  "4Zyyy 2Zzzz 8Zyyy Zzzz 7Zyyy Zzzz 1cZyyy Zzzz 4Zyyy Zzzz 5Zyyy Zzzz Zyyy 3Zzzz 7Zyyy Zzzz",
  "154Zyyy 2Zzzz 124Zyyy 2Zzzz 32Zyyy 28cSgnw fZzzz 5Sgnw Zzzz fSgnw 450Zzzz 1fLatn 6Zzzz 6Latn",
  "d5Zzzz 7Glag Zzzz 11Glag 2Zzzz 7Glag Zzzz 2Glag Zzzz 5Glag 5Zzzz 3eCyrl 21Zzzz Cyrl 70Zzzz",
  "2dHmnp 3Zzzz eHmnp 2Zzzz aHmnp 4Zzzz 2Hmnp 140Zzzz 1fToto 11Zzzz 3aWcho 5Zzzz Wcho 1d0Zzzz",
  "2aNagm d6Zzzz 2bOnao 4Zzzz Onao 1e0Zzzz 7Ethi Zzzz 4Ethi Zzzz 2Ethi Zzzz fEthi Zzzz c5Mend",
  "2Zzzz 10Mend 29Zzzz 4cAdlm 4Zzzz aAdlm 4Zzzz 2Adlm 311Zzzz 44Zyyy 4cZzzz 3dZyyy c2Zzzz 4Arab",
  "Zzzz 1bArab Zzzz 2Arab Zzzz Arab 2Zzzz Arab Zzzz aArab Zzzz 4Arab Zzzz Arab Zzzz Arab 6Zzzz",
  "Arab 4Zzzz Arab Zzzz Arab Zzzz Arab Zzzz 3Arab Zzzz 2Arab Zzzz Arab 2Zzzz Arab Zzzz Arab",
  "Zzzz Arab Zzzz Arab Zzzz Arab Zzzz 2Arab Zzzz Arab 2Zzzz 4Arab Zzzz 7Arab Zzzz 4Arab Zzzz",
  "4Arab Zzzz Arab Zzzz aArab Zzzz 11Arab 5Zzzz 3Arab Zzzz 5Arab Zzzz 11Arab 34Zzzz 2Arab",
  "10eZzzz 2cZyyy 4Zzzz 64Zyyy cZzzz fZyyy 2Zzzz fZyyy Zzzz fZyyy Zzzz 25Zyyy aZzzz aeZyyy",
  "38Zzzz 1aZyyy Hira 2Zyyy dZzzz 2cZyyy 4Zzzz 9Zyyy 7Zzzz 2Zyyy eZzzz 6Zyyy 9aZzzz 3d8Zyyy",
  "4Zzzz 11Zyyy 3Zzzz dZyyy 3Zzzz 77Zyyy 4Zzzz 5fZyyy 6Zzzz cZyyy 4Zzzz Zyyy fZzzz cZyyy 4Zzzz",
  "38Zyyy 8Zzzz aZyyy 6Zzzz 28Zyyy 8Zzzz 1eZyyy 2Zzzz cZyyy 4Zzzz 2Zyyy 3eZzzz 154Zyyy cZzzz",
  "eZyyy 2Zzzz dZyyy 3Zzzz aZyyy 5Zzzz 38Zyyy 7Zzzz fZyyy 2Zzzz bZyyy 6Zzzz 9Zyyy 7Zzzz 93Zyyy",
  "Zzzz 66Zyyy 406Zzzz a6e0Hani 20Zzzz 103aHani 6Zzzz deHani 2Zzzz 1682Hani eZzzz 1d31Hani",
  "fZzzz 26eHani 9a2Zzzz 21eHani 5e2Zzzz 134bHani 5Zzzz 1060Hani adc51Zzzz Zyyy 1eZzzz 60Zyyy",
  "80Zzzz f0Zinh 2fe10Zzzz"]

private def runs : List (Nat × String) := decodeRuns rows

def ofChar (c : Char) : String := (tagAt runs c.toNat).getD "Zzzz"

def names : List (String × List String) := [
  ("Adlm", ["adlm", "adlam"]),
  ("Aghb", ["aghb", "caucasianalbanian"]),
  ("Ahom", ["ahom"]),
  ("Arab", ["arab", "arabic"]),
  ("Armi", ["armi", "imperialaramaic"]),
  ("Armn", ["armn", "armenian"]),
  ("Avst", ["avst", "avestan"]),
  ("Bali", ["bali", "balinese"]),
  ("Bamu", ["bamu", "bamum"]),
  ("Bass", ["bass", "bassavah"]),
  ("Batk", ["batk", "batak"]),
  ("Beng", ["beng", "bengali"]),
  ("Bhks", ["bhks", "bhaiksuki"]),
  ("Bopo", ["bopo", "bopomofo"]),
  ("Brah", ["brah", "brahmi"]),
  ("Brai", ["brai", "braille"]),
  ("Bugi", ["bugi", "buginese"]),
  ("Buhd", ["buhd", "buhid"]),
  ("Cakm", ["cakm", "chakma"]),
  ("Cans", ["cans", "canadianaboriginal"]),
  ("Cari", ["cari", "carian"]),
  ("Cham", ["cham"]),
  ("Cher", ["cher", "cherokee"]),
  ("Chrs", ["chrs", "chorasmian"]),
  ("Copt", ["copt", "coptic", "qaac"]),
  ("Cpmn", ["cpmn", "cyprominoan"]),
  ("Cprt", ["cprt", "cypriot"]),
  ("Cyrl", ["cyrl", "cyrillic"]),
  ("Deva", ["deva", "devanagari"]),
  ("Diak", ["diak", "divesakuru"]),
  ("Dogr", ["dogr", "dogra"]),
  ("Dsrt", ["dsrt", "deseret"]),
  ("Dupl", ["dupl", "duployan"]),
  ("Egyp", ["egyp", "egyptianhieroglyphs"]),
  ("Elba", ["elba", "elbasan"]),
  ("Elym", ["elym", "elymaic"]),
  ("Ethi", ["ethi", "ethiopic"]),
  ("Gara", ["gara", "garay"]),
  ("Geor", ["geor", "georgian"]),
  ("Glag", ["glag", "glagolitic"]),
  ("Gong", ["gong", "gunjalagondi"]),
  ("Gonm", ["gonm", "masaramgondi"]),
  ("Goth", ["goth", "gothic"]),
  ("Gran", ["gran", "grantha"]),
  ("Grek", ["grek", "greek"]),
  ("Gujr", ["gujr", "gujarati"]),
  ("Gukh", ["gukh", "gurungkhema"]),
  ("Guru", ["guru", "gurmukhi"]),
  ("Hang", ["hang", "hangul"]),
  ("Hani", ["hani", "han"]),
  ("Hano", ["hano", "hanunoo"]),
  ("Hatr", ["hatr", "hatran"]),
  ("Hebr", ["hebr", "hebrew"]),
  ("Hira", ["hira", "hiragana"]),
  ("Hluw", ["hluw", "anatolianhieroglyphs"]),
  ("Hmng", ["hmng", "pahawhhmong"]),
  ("Hmnp", ["hmnp", "nyiakengpuachuehmong"]),
  ("Hung", ["hung", "oldhungarian"]),
  ("Ital", ["ital", "olditalic"]),
  ("Java", ["java", "javanese"]),
  ("Kali", ["kali", "kayahli"]),
  ("Kana", ["kana", "katakana"]),
  ("Kawi", ["kawi"]),
  ("Khar", ["khar", "kharoshthi"]),
  ("Khmr", ["khmr", "khmer"]),
  ("Khoj", ["khoj", "khojki"]),
  ("Kits", ["kits", "khitansmallscript"]),
  ("Knda", ["knda", "kannada"]),
  ("Krai", ["krai", "kiratrai"]),
  ("Kthi", ["kthi", "kaithi"]),
  ("Lana", ["lana", "taitham"]),
  ("Laoo", ["laoo", "lao"]),
  ("Latn", ["latn", "latin"]),
  ("Lepc", ["lepc", "lepcha"]),
  ("Limb", ["limb", "limbu"]),
  ("Lina", ["lina", "lineara"]),
  ("Linb", ["linb", "linearb"]),
  ("Lisu", ["lisu"]),
  ("Lyci", ["lyci", "lycian"]),
  ("Lydi", ["lydi", "lydian"]),
  ("Mahj", ["mahj", "mahajani"]),
  ("Maka", ["maka", "makasar"]),
  ("Mand", ["mand", "mandaic"]),
  ("Mani", ["mani", "manichaean"]),
  ("Marc", ["marc", "marchen"]),
  ("Medf", ["medf", "medefaidrin"]),
  ("Mend", ["mend", "mendekikakui"]),
  ("Merc", ["merc", "meroiticcursive"]),
  ("Mero", ["mero", "meroitichieroglyphs"]),
  ("Mlym", ["mlym", "malayalam"]),
  ("Modi", ["modi"]),
  ("Mong", ["mong", "mongolian"]),
  ("Mroo", ["mroo", "mro"]),
  ("Mtei", ["mtei", "meeteimayek"]),
  ("Mult", ["mult", "multani"]),
  ("Mymr", ["mymr", "myanmar"]),
  ("Nagm", ["nagm", "nagmundari"]),
  ("Nand", ["nand", "nandinagari"]),
  ("Narb", ["narb", "oldnortharabian"]),
  ("Nbat", ["nbat", "nabataean"]),
  ("Newa", ["newa"]),
  ("Nkoo", ["nkoo", "nko"]),
  ("Nshu", ["nshu", "nushu"]),
  ("Ogam", ["ogam", "ogham"]),
  ("Olck", ["olck", "olchiki"]),
  ("Onao", ["onao", "olonal"]),
  ("Orkh", ["orkh", "oldturkic"]),
  ("Orya", ["orya", "oriya"]),
  ("Osge", ["osge", "osage"]),
  ("Osma", ["osma", "osmanya"]),
  ("Ougr", ["ougr", "olduyghur"]),
  ("Palm", ["palm", "palmyrene"]),
  ("Pauc", ["pauc", "paucinhau"]),
  ("Perm", ["perm", "oldpermic"]),
  ("Phag", ["phag", "phagspa"]),
  ("Phli", ["phli", "inscriptionalpahlavi"]),
  ("Phlp", ["phlp", "psalterpahlavi"]),
  ("Phnx", ["phnx", "phoenician"]),
  ("Plrd", ["plrd", "miao"]),
  ("Prti", ["prti", "inscriptionalparthian"]),
  ("Rjng", ["rjng", "rejang"]),
  ("Rohg", ["rohg", "hanifirohingya"]),
  ("Runr", ["runr", "runic"]),
  ("Samr", ["samr", "samaritan"]),
  ("Sarb", ["sarb", "oldsoutharabian"]),
  ("Saur", ["saur", "saurashtra"]),
  ("Sgnw", ["sgnw", "signwriting"]),
  ("Shaw", ["shaw", "shavian"]),
  ("Shrd", ["shrd", "sharada"]),
  ("Sidd", ["sidd", "siddham"]),
  ("Sind", ["sind", "khudawadi"]),
  ("Sinh", ["sinh", "sinhala"]),
  ("Sogd", ["sogd", "sogdian"]),
  ("Sogo", ["sogo", "oldsogdian"]),
  ("Sora", ["sora", "sorasompeng"]),
  ("Soyo", ["soyo", "soyombo"]),
  ("Sund", ["sund", "sundanese"]),
  ("Sunu", ["sunu", "sunuwar"]),
  ("Sylo", ["sylo", "sylotinagri"]),
  ("Syrc", ["syrc", "syriac"]),
  ("Tagb", ["tagb", "tagbanwa"]),
  ("Takr", ["takr", "takri"]),
  ("Tale", ["tale", "taile"]),
  ("Talu", ["talu", "newtailue"]),
  ("Taml", ["taml", "tamil"]),
  ("Tang", ["tang", "tangut"]),
  ("Tavt", ["tavt", "taiviet"]),
  ("Telu", ["telu", "telugu"]),
  ("Tfng", ["tfng", "tifinagh"]),
  ("Tglg", ["tglg", "tagalog"]),
  ("Thaa", ["thaa", "thaana"]),
  ("Thai", ["thai"]),
  ("Tibt", ["tibt", "tibetan"]),
  ("Tirh", ["tirh", "tirhuta"]),
  ("Tnsa", ["tnsa", "tangsa"]),
  ("Todr", ["todr", "todhri"]),
  ("Toto", ["toto"]),
  ("Tutg", ["tutg", "tulutigalari"]),
  ("Ugar", ["ugar", "ugaritic"]),
  ("Vaii", ["vaii", "vai"]),
  ("Vith", ["vith", "vithkuqi"]),
  ("Wara", ["wara", "warangciti"]),
  ("Wcho", ["wcho", "wancho"]),
  ("Xpeo", ["xpeo", "oldpersian"]),
  ("Xsux", ["xsux", "cuneiform"]),
  ("Yezi", ["yezi", "yezidi"]),
  ("Yiii", ["yiii", "yi"]),
  ("Zanb", ["zanb", "zanabazarsquare"]),
  ("Zinh", ["zinh", "inherited", "qaai"]),
  ("Zyyy", ["zyyy", "common"])]

end ClassForge.Unicode.Script
